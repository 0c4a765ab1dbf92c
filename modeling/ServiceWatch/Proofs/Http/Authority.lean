import ServiceWatch.Http.Url
import ServiceWatch.Proofs.Http.Verdict
import ServiceWatch.Proofs.Net.Address

/-! Where the checks of services go that have no `url`. -/
namespace ServiceWatch.Http.Check

open ServiceWatch.Text

/-! ### Authorities -/

/-- A character that ends the authority in the address of a page. -/
def endsAuthority (c : Char) : Bool := c = '/' || c = '?' || c = '#'

def behindScheme : List Char → List Char
  | ':' :: '/' :: '/' :: rest => rest
  | _ :: cs => behindScheme cs
  | [] => []

/-- The authority in the address of a page: up to the path, the query or the fragment. -/
def authority (url : String) : List Char :=
  (behindScheme url.toList).takeWhile fun c => !endsAuthority c

/-- A text goes on behind an authority, or there is nothing more. -/
def Leaves (path : List Char) : Prop := ∀ c ∈ path.head?, endsAuthority c = true

theorem urlEndsAuthority_of_endsAuthority {c : Char} (h : endsAuthority c = true) :
    Url.endsAuthority c = true := by
  simp only [endsAuthority, Bool.or_eq_true, decide_eq_true_eq] at h
  rcases h with (rfl | rfl) | rfl <;> rfl

instance (path : List Char) : Decidable (Leaves path) :=
  decidable_of_iff (path.head?.all endsAuthority = true) (Option.all_eq_true ..)

theorem takeWhile_eq_nil_iff {path : List Char} :
    path.takeWhile (fun c => !endsAuthority c) = [] ↔ Leaves path := by
  cases path <;> simp [Leaves, List.takeWhile_cons]

/-- What is tidied up at the end of an address is behind its last printed character. -/
theorem tidyEnd_append {front rest : List Char} (h : ∀ c ∈ front, ' ' < c) :
    Url.tidyEnd (front ++ rest) = front ++ Url.tidyEnd rest := by
  have htrim : front.reverse.dropWhile (fun c => decide (c ≤ ' ')) = front.reverse := by
    refine List.dropWhile_eq_self_iff.2 fun hne => ?_
    have hlt := h _ (List.mem_reverse.1 (List.getElem_mem hne))
    simpa using hlt
  have hkeep : front.filter (fun c => c ≠ '\t' && c ≠ '\n' && c ≠ '\r') = front := by
    refine List.filter_eq_self.2 fun c hc => ?_
    have hlt := h c hc
    simp only [Bool.and_eq_true, decide_eq_true_eq]
    refine ⟨⟨?_, ?_⟩, ?_⟩ <;> rintro rfl <;> contradiction
  unfold Url.tidyEnd
  rw [List.reverse_append, List.dropWhile_append]
  split
  · rename_i hempty
    rw [htrim, List.reverse_reverse, hkeep, List.isEmpty_iff.1 hempty]
    simp
  · rw [List.reverse_append, List.reverse_reverse, List.filter_append, hkeep]

theorem Leaves.tidyEnd {path : List Char} (h : Leaves path) : Leaves (Url.tidyEnd path) := by
  cases path with
  | nil => exact h
  | cons c path =>
    have hc : endsAuthority c = true := h c rfl
    have hlt : ' ' < c := by
      simp only [endsAuthority, Bool.or_eq_true, decide_eq_true_eq] at hc
      rcases hc with (rfl | rfl) | rfl <;> decide
    rw [← List.singleton_append, tidyEnd_append (by simpa using hlt)]
    intro d hd
    obtain rfl : c = d := by simpa using hd
    exact hc

/-! ### Sockets -/

def isSocketChar (c : Char) : Bool :=
  (Hexadecimal.digitValue? c).isSome || c = '.' || c = ':' || c = '[' || c = ']'

section Socket

variable {c : Char} (port : UInt16)

theorem toList_socket_v4 (a b c d : UInt8) : (socket (.v4 a b c d) port).toList =
    (Address.v4 a b c d).render ++ ':' :: Decimal.digits port.toNat := by
  simp [socket, Address.text, Text.Decimal.text]

theorem toList_socket_v6 (a b c d e f g h : UInt16) : (socket (.v6 a b c d e f g h) port).toList =
    '[' :: ((Address.v6 a b c d e f g h).render ++ ']' :: ':' :: Decimal.digits port.toNat) := by
  simp [socket, Address.text, Text.Decimal.text]

variable {port}

theorem isSocketChar_of_mem {address : Address} (h : c ∈ (socket address port).toList) :
    isSocketChar c = true := by
  have hport (h : c ∈ Decimal.digits port.toNat) : isSocketChar c = true := by
    simp [isSocketChar, Hexadecimal.isSome_of_isDigit (Decimal.isDigit_of_mem_digits h)]
  have haddress (h : c ∈ address.render) : isSocketChar c = true := by
    rcases Address.mem_render h with h | rfl | rfl
    · simp [isSocketChar, h]
    · rfl
    · rfl
  cases address with
  | v4 =>
    rw [toList_socket_v4, List.mem_append, List.mem_cons] at h
    rcases h with h | rfl | h
    · exact haddress h
    · rfl
    · exact hport h
  | v6 =>
    rw [toList_socket_v6, List.mem_cons, List.mem_append, List.mem_cons, List.mem_cons] at h
    rcases h with rfl | h | rfl | rfl | h
    · rfl
    · exact haddress h
    · rfl
    · rfl
    · exact hport h

theorem not_urlEndsAuthority_of_mem {address : Address} (h : c ∈ (socket address port).toList) :
    (!Url.endsAuthority c) = true := by
  have hc := isSocketChar_of_mem h
  rw [Bool.not_eq_true']
  by_contra he
  simp only [Url.endsAuthority, Url.isSlash, Bool.not_eq_false, Bool.or_eq_true,
    decide_eq_true_eq] at he
  rcases he with ((rfl | rfl) | rfl) | rfl <;> contradiction

theorem not_endsAuthority_of_mem {address : Address} (h : c ∈ (socket address port).toList) :
    (!endsAuthority c) = true := by
  have hc := not_urlEndsAuthority_of_mem h
  rw [Bool.not_eq_true'] at hc ⊢
  by_contra he
  exact ne_true_of_eq_false hc (urlEndsAuthority_of_endsAuthority (eq_true_of_ne_false he))

theorem lt_of_mem_socket {address : Address} (h : c ∈ (socket address port).toList) : ' ' < c := by
  have hc := isSocketChar_of_mem h
  simp only [isSocketChar, Bool.or_eq_true, decide_eq_true_eq] at hc
  rcases hc with (((hc | rfl) | rfl) | rfl) | rfl
  · unfold Hexadecimal.digitValue? at hc
    split at hc
    · rename_i hdigit
      exact lt_of_lt_of_le (show ' ' < '0' by decide) hdigit.1
    split at hc
    · rename_i hletter
      exact lt_of_lt_of_le (show ' ' < 'a' by decide) hletter.1
    split at hc
    · rename_i hletter
      exact lt_of_lt_of_le (show ' ' < 'A' by decide) hletter.1
    · contradiction
  all_goals decide

theorem socket_ne_nil (address : Address) (port : UInt16) : (socket address port).toList ≠ [] := by
  cases address with
  | v4 => simp [toList_socket_v4]
  | v6 => simp [toList_socket_v6]

/-- A port is read back. -/
theorem readPort_digits (port : UInt16) : Url.readPort (Decimal.digits port.toNat) = some port := by
  have hall : (Decimal.digits port.toNat).all Char.isDigit = true :=
    List.all_eq_true.2 fun _ => Decimal.isDigit_of_mem_digits
  have hempty : (Decimal.digits port.toNat).isEmpty = false := by simp [Decimal.digits_ne_nil]
  have hlt : port.toNat < 65536 := port.toNat_lt
  simp [Url.readPort, hempty, hall, Decimal.value_digits, hlt]

theorem readAuthority_host {host digits : List Char} (hne : host ≠ [])
    (hhost : ∀ c ∈ host, c ≠ ':' ∧ c ≠ '[') (hport : Url.readPort digits = some port) :
    Url.readAuthority (host ++ ':' :: digits) = some (String.ofList host, port) := by
  have hspan : (host ++ ':' :: digits).span (· ≠ ':') = (host, ':' :: digits) := by
    have hall : ∀ c ∈ host, decide (c ≠ ':') = true := fun c hc => decide_eq_true (hhost c hc).1
    rw [List.span_eq_takeWhile_dropWhile, List.takeWhile_append_of_pos hall,
      List.dropWhile_append_of_pos hall]
    simp
  have hempty : host.isEmpty = false := by simpa using hne
  unfold Url.readAuthority
  split
  · rename_i inner hinner
    cases host with
    | nil => contradiction
    | cons c host => exact absurd (List.cons.inj hinner).1 (hhost c List.mem_cons_self).2
  · rw [hspan]
    simp [hne, hport]

theorem readAuthority_bracketed {host digits : List Char} (hne : host ≠ []) (hhost : ']' ∉ host)
    (hport : Url.readPort digits = some port) :
    Url.readAuthority ('[' :: (host ++ ']' :: ':' :: digits)) = some (String.ofList host, port) := by
  have htake : (host ++ ']' :: ':' :: digits).takeWhile (· ≠ ']') = host := by
    rw [List.takeWhile_append_of_pos fun c hc => decide_eq_true (ne_of_mem_of_not_mem hc hhost)]
    simp
  unfold Url.readAuthority
  split
  · rename_i inner hinner
    obtain rfl := (List.cons.inj hinner).2
    simp only [htake, List.drop_left]
    simp [hne, hport]
  · rename_i hother
    exact absurd rfl (hother _)

/-- The text of a socket leads to its address and its port. -/
theorem readAuthority_socket (address : Address) (port : UInt16) :
    Url.readAuthority (socket address port).toList = some (address.text, port) := by
  cases address with
  | v4 =>
    rw [toList_socket_v4]
    refine readAuthority_host (Address.render_ne_nil _) (fun c hc => ?_) (readPort_digits port)
    rcases Address.mem_dotted hc with hc | rfl
    · constructor <;> rintro rfl <;> contradiction
    · decide
  | v6 =>
    rw [toList_socket_v6]
    refine readAuthority_bracketed (Address.render_ne_nil _) (fun hc => ?_) (readPort_digits port)
    rcases Address.mem_render hc with hc | hc | hc <;> contradiction

theorem takeWhile_socket_append (address : Address) (port : UInt16) (path : List Char) :
    ((socket address port).toList ++ path).takeWhile (fun c => !endsAuthority c) =
      (socket address port).toList ++ path.takeWhile fun c => !endsAuthority c :=
  List.takeWhile_append_of_pos fun _ => not_endsAuthority_of_mem

/-- A page behind a socket is on that socket. -/
theorem readPlace_socket {address : Address} {path : List Char} (hpath : Leaves path) :
    Url.readPlace ('/' :: '/' :: ((socket address port).toList ++ path)) =
      some { host := address.text, port, target := Url.readTarget path } := by
  have hplace : ('/' :: '/' :: ((socket address port).toList ++ path)).dropWhile Url.isSlash =
      (socket address port).toList ++ path := by
    obtain ⟨c, rest, hsocket⟩ := List.exists_cons_of_ne_nil (socket_ne_nil address port)
    have hc : (!Url.endsAuthority c) = true :=
      not_urlEndsAuthority_of_mem (hsocket ▸ List.mem_cons_self)
    have hslash : Url.isSlash c = false := by simp_all [Url.endsAuthority]
    rw [hsocket]
    simp [hslash, show Url.isSlash '/' = true from rfl]
  have hauthority : ((socket address port).toList ++ path).takeWhile (fun c => !Url.endsAuthority c) =
      (socket address port).toList := by
    rw [List.takeWhile_append_of_pos fun _ => not_urlEndsAuthority_of_mem, List.append_right_eq_self]
    cases path with
    | nil => rfl
    | cons c path =>
      simp [urlEndsAuthority_of_endsAuthority (hpath c rfl)]
  have hat : ((socket address port).toList.reverse.takeWhile (· ≠ '@')).reverse =
      (socket address port).toList := by
    rw [List.takeWhile_eq_self_iff.2, List.reverse_reverse]
    intro c hc
    refine decide_eq_true ?_
    rintro rfl
    exact absurd (isSocketChar_of_mem (List.mem_reverse.1 hc)) (by decide)
  simp only [Url.readPlace, hplace, hauthority, hat, readAuthority_socket, List.drop_left]
  rfl

end Socket

/-! ### Services without `url` -/

variable {s : PolledService} {check : Check}

/-- Without `url`, the address of the page is put together from the socket and the path. -/
theorem readUrl_eq_ok (hurl : s.parameters.get? "url" = none) {url : String} :
    readUrl s = .ok url ↔ ∃ port, readPort s = .ok port ∧
      url.toList = (if isSecure s then "https://" else "http://").toList ++
        ((socket s.address port).toList ++ ((s.parameters.get? "path").getD "/").toList) := by
  unfold readUrl
  rw [hurl]
  cases readPort s with
  | error failure => simp [bind, Except.bind]
  | ok port =>
    simp only [bind, Except.bind, pure, Except.pure, Except.ok.injEq, exists_eq_left',
      ← String.toList_inj]
    split <;> simp [eq_comm]

/-- No other parameters count. -/
theorem readUrl_congr {parameters : Table String String}
    (h : ∀ key ∈ ["url", "port", "path"], parameters.get? key = s.parameters.get? key) :
    readUrl { s with parameters } = readUrl s := by
  simp only [List.forall_mem_cons] at h
  obtain ⟨hurl, hport, hpath, -⟩ := h
  unfold readUrl readPort
  dsimp only
  rw [hurl, hport, hpath]
  rfl

theorem authority_of_toList {url : String} {rest : List Char} {secure : Bool}
    (h : url.toList = (if secure then "https://" else "http://").toList ++ rest) :
    authority url = rest.takeWhile fun c => !endsAuthority c := by
  rw [authority, h]
  cases secure <;> rfl

theorem read_of_toList {url : String} {rest : List Char} (h : url.toList = "http://".toList ++ rest) :
    Url.read url = Url.readPlace ('/' :: '/' :: Url.tidyEnd rest) := by
  have hscheme : ∀ c ∈ "http://".toList, ' ' < c := by simp
  have htidy : Url.tidy url.toList = "http://".toList ++ Url.tidyEnd rest := by
    rw [h]
    exact tidyEnd_append hscheme
  rw [Url.read, htidy]
  rfl

/-- Without `url`, the address of the page that a check asks for is that of a socket of the service,
and what `path` starts with belongs to the authority as far as no slash, question mark or number sign
comes. So the authority is the socket itself exactly if `path` is empty or starts with one of them, and
then the request goes to the address of the service and to its port. Of the parameters, only `port` and
`path` count. -/
theorem path_extends_authority (h : ofService s = .ok check) (hurl : s.parameters.get? "url" = none) :
    let path := ((s.parameters.get? "path").getD "/").toList
    ∃ port, (match s.parameters.get? "port" with
        | none => port = if isSecure s then 443 else 80
        | some text => Word.Denotes text.toList port) ∧
      authority check.url =
        (socket s.address port).toList ++ path.takeWhile (fun c => !endsAuthority c) ∧
      (authority check.url = (socket s.address port).toList ↔ Leaves path) ∧
      Url.readAuthority (socket s.address port).toList = some (s.address.text, port) ∧
      (isSecure s = false → Leaves path →
        Url.read check.url =
          some ⟨s.address.text, port, Url.readTarget (Url.tidyEnd path)⟩) ∧
      ∀ parameters check', ofService { s with parameters } = .ok check' →
        (∀ key ∈ ["url", "port", "path"], parameters.get? key = s.parameters.get? key) →
          check'.url = check.url := by
  intro path
  obtain ⟨port, hport, hlist⟩ := (readUrl_eq_ok hurl).1 (ofService_eq_ok.1 h).1
  have hauthority : authority check.url =
      (socket s.address port).toList ++ path.takeWhile (fun c => !endsAuthority c) := by
    rw [authority_of_toList hlist, takeWhile_socket_append]
  refine ⟨port, readPort_eq_ok.1 hport, hauthority, ?_, readAuthority_socket .., ?_, ?_⟩
  · rw [hauthority, List.append_right_eq_self, takeWhile_eq_nil_iff]
  · intro hsecure hpath
    rw [hsecure] at hlist
    rw [read_of_toList hlist, tidyEnd_append fun _ => lt_of_mem_socket,
      readPlace_socket hpath.tidyEnd]
  · intro parameters check' h' hkeys
    have h' := (ofService_eq_ok.1 h').1
    rw [readUrl_congr hkeys, (ofService_eq_ok.1 h).1] at h'
    exact (Except.ok.inj h').symm

theorem path_extends_authority_sample :
    let s : PolledService := ⟨1, 1, none, .v6 0 0 0 0 0 0 0 1, "HTTP",
      .ofList [("port", "+8080"), ("path", "?q")]⟩
    ∃ check, ofService s = .ok check ∧ s.parameters.get? "url" = none ∧
      authority check.url = "[::1]:8080".toList ∧ Url.read check.url = some ⟨"::1", 8080, "/?q"⟩ := by
  intro s
  obtain ⟨check, h⟩ : ∃ check, ofService s = .ok check := ⟨_, rfl⟩
  have hpath : Leaves ((s.parameters.get? "path").getD "/").toList := by decide
  obtain ⟨port, hport, -, hsocket, -, hread, -⟩ := path_extends_authority h (by decide)
  obtain rfl : port = 8080 := by
    have hword : Word.read "+8080".toList = .ok port := Word.read_eq_ok.2 hport
    exact (Except.ok.inj hword).symm
  refine ⟨check, h, by decide, (hsocket.2 hpath).trans ?_, (hread (by decide) hpath).trans ?_⟩
  · decide +kernel
  · decide +kernel

/-- A path can lead a check away from the address of its service. -/
theorem path_changes_host :
    let s : PolledService :=
      ⟨1, 1, none, .v4 10 0 0 1, "HTTP", .ofList [("path", "@10.9.9.9/health")]⟩
    ∃ check, ofService s = .ok check ∧ s.parameters.get? "url" = none ∧
      authority check.url ≠ (socket s.address 80).toList ∧
      Url.read check.url = some ⟨"10.9.9.9", 80, "/health"⟩ := by
  intro s
  exact ⟨_, rfl, by decide, by decide +kernel, by decide +kernel⟩

end ServiceWatch.Http.Check
