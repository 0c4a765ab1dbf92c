import ServiceWatch.Unicode.CodeSet

/-! The classes of characters by which texts are divided into clusters, words and sentences. -/
namespace ServiceWatch.Unicode

/-- A way to divide texts: the classes of characters, each with its sign in the table and its names in
lower case and without separators, and the runs of code points of one class. A point stands for those
without a class. -/
structure Division where
  values : List (Char × List String)
  runs : List String

namespace Division

def ofName? (d : Division) (name : String) : Option CodeSet :=
  (d.values.find? fun (_, names) => names.contains name).map fun (sign, _) =>
    CodeSet.characters.inter (.ofRuns (· = sign) (RunLength.readRuns (RunLength.characters d.runs) 0))

def clusters : Division where
  values :=
    [('a', ["cr"]), ('b', ["cn", "control"]), ('c', ["ex", "extend"]), ('d', ["l"]),
    ('e', ["lf"]), ('f', ["lv"]), ('g', ["lvt"]), ('h', ["pp", "prepend"]),
    ('i', ["ri", "regionalindicator"]), ('j', ["sm", "spacingmark"]), ('k', ["t"]), ('l', ["v"]),
    ('m', ["zwj"])]
  runs :=
    ["b10eb2ab18.95b33.13b.594c112.275c7.263c45.c.c2.c2.c.56h6.10c11.b.46c21.16c.101c7h.c6.2c2.c",
    "4.33h.c.30c27.91c11.58c9.9c.24c4.c9.c3.c5.43c3.52h2.5c9.42c24hc32j.54cjc.j3c8j4cj2.c7.10c2",
    ".29cj2.56c.cj2c4.2j2.2j2c.9c.10c2.26c.2c2j.56c.j3c2.4c2.2c3.3c.30c2.3c.11c2j.56c.j3c5.c2j.",
    "j2c.20c2.22c6.cj2.56c.c2jc4.2j2.2j2c.7c3.10c2.30c.59cjcj2.3j3.j3c.9c.40cj3c.55c.c3j4.c3.c4",
    ".7c2.11c2.29cj2.56c.jc2jcj2.c3.c4.7c2.11c2.15j.12c2j2.55c2.cj2c4.j3.j3ch.8c.10c2.29cj2.70c",
    ".4cj2c3.c.j7c.18j2.61c.jc7.12c8.98c.jc9.11c7.73c2.27c.c.c.4j2.49c14jc5.c2.5c11.c36.9c.102c",
    "4jc6.c2j2c2.23j2c2.4c3.16c4.13c.jc2.6c.15c.98d96l72k88.349c3.946c4.28c3.29c2.30c2.64c2jc7j",
    "8cj2c11.9c.45c3bc.117c2.34c.118c3j4c2j3.4j2cj6c3.219c2j2c.57jcjc7.c.c.2c8j6c10.2c.48c31.49",
    "c4j.47c10j4c3.38c9.12c2j.30jc4j2c6.56cjc2j3cjc5.48j8c8j2c2.152c3.c13jc7.4c.6c.2jc2.198c64.",
    "523bcmb2.24b7.49b16.96c33.3070c3.141c.96c32.554c6.105c2.30164c4.c10.32c2.80c2.272c.3c.4c.2",
    "3j2c2j.4c.83j2.50j16c2.26c18.13c.38c8.25c11jc.12d29.3c3j.47cj2c4j2c2j2c.36c.67c6j2c2j2c2.1",
    "2c.8cj.46c.51c.c3.2c2.5c2.c.41jc2j2.5jc.236j2cj2cj2.jc.18fg27fg27fg27fg27fg27fg27fg27fg27f",
    "g27fg27fg27fg27fg27fg27fg27fg27fg27fg27fg27fg27fg27fg27fg27fg27fg27fg27fg27fg27fg27fg27fg2",
    "7fg27fg27fg27fg27fg27fg27fg27fg27fg27fg27fg27fg27fg27fg27fg27fg27fg27fg27fg27fg27fg27fg27f",
    "g27fg27fg27fg27fg27fg27fg27fg27fg27fg27fg27fg27fg27fg27fg27fg27fg27fg27fg27fg27fg27fg27fg2",
    "7fg27fg27fg27fg27fg27fg27fg27fg27fg27fg27fg27fg27fg27fg27fg27fg27fg27fg27fg27fg27fg27fg27f",
    "g27fg27fg27fg27fg27fg27fg27fg27fg27fg27fg27fg27fg27fg27fg27fg27fg27fg27fg27fg27fg27fg27fg2",
    "7fg27fg27fg27fg27fg27fg27fg27fg27fg27fg27fg27fg27fg27fg27fg27fg27fg27fg27fg27fg27fg27fg27f",
    "g27fg27fg27fg27fg27fg27fg27fg27fg27fg27fg27fg27fg27fg27fg27fg27fg27fg27fg27fg27fg27fg27fg2",
    "7fg27fg27fg27fg27fg27fg27fg27fg27fg27fg27fg27fg27fg27fg27fg27fg27fg27fg27fg27fg27fg27fg27f",
    "g27fg27fg27fg27fg27fg27fg27fg27fg27fg27fg27fg27fg27fg27fg27fg27fg27fg27fg27fg27fg27fg27fg2",
    "7fg27fg27fg27fg27fg27fg27fg27fg27fg27fg27fg27fg27fg27fg27fg27fg27fg27fg27fg27fg27fg27fg27f",
    "g27fg27fg27fg27fg27fg27fg27fg27fg27fg27fg27fg27fg27fg27fg27fg27fg27fg27fg27fg27fg27fg27fg2",
    "7fg27fg27fg27fg27fg27fg27fg27fg27fg27fg27fg27fg27fg27fg27fg27fg27fg27fg27fg27fg27fg27fg27f",
    "g27fg27fg27fg27fg27fg27fg27fg27fg27fg27fg27fg27fg27fg27fg27fg27fg27fg27fg27fg27fg27fg27fg2",
    "7fg27fg27fg27fg27fg27fg27fg27fg27fg27fg27fg27fg27fg27fg27fg27fg27fg27fg27fg27fg27fg27fg27f",
    "g27fg27fg27fg27fg27fg27fg27fg27fg27fg27fg27fg27fg27fg27fg27fg27fg27fg27fg27fg27fg27fg27fg2",
    "7fg27fg27fg27fg27fg27fg27fg27fg27fg27fg27fg27fg27fg27fg27fg27fg27fg27fg27fg27fg27fg27fg27f",
    "g27fg27fg27fg27fg27fg27fg27fg27fg27fg27fg27fg27fg27fg27fg27fg27fg27fg27fg27fg27fg27fg27fg2",
    "7fg27fg27fg27fg27fg27fg27fg27fg27.12l23.4k49.8994c.737c16.16c16.207b.158c2.80b12.513c.226c",
    ".149c5.1670c3.c2.5c4.40c3.4c.165c2.573c4.65c5.317c2.79c4.70c11.49c4.122jcj.53c15.41c.2c2.1",
    "0c3j.45j3c4j2c2.2h.4c.10h.50c3.36c5jc8.16j2.44c.12c2j.48j3c9jc.h2.5c4.jc.92j3c3j2c4.6c.2c.",
    "157cj3c8.21c2j2.55c2.cjcj4.2j2.2j2c.9c.10j2.2c7.3c5.67cj2c6.c.2c.c3j.j2c3hc.14c2.82j3c8j2c",
    "3jc.23c.81cj2c6jcj2cjc2jc2.235cj2c4.2j4c2jc2.27c2.82j3c8j2cjc2.106cjcj2c8.101c3.2c4jc5.256",
    "j3c9jc2.245cj5.j2.2c4hjhjc.141j3c4.2c2j4c.3j.28c10.40c6jhc4.8c.9c6j2c3.40h6c13jc2.405jc7.c",
    "6jc.82c22.jc7jc2jc2.122c6.3c.c2.c7hc.66j5.c2.j2cjc.347c2j2.9c2hj.48j2c5.3j2c3.23c.5333b16c",
    ".6c15.11464c12j3c3.2496c5.59c7.556l.3l4.484c.j55.7c4.81c.11c2.19627c2.b4.4700c46.2c23.542c",
    "5.3c6b8c8.2c7.30c4.148c3.1979c55.4c50.8c.14c.22c5.c15.1360c7.c17.2c7.c2.c5.100c.160c7.375c",
    ".61c4.508c4.254c2.736c7.109c7.2203i26.507c5.789504b32c96b128c240b3600.192512"]

def words : Division where
  values :=
    [('a', ["le", "aletter"]), ('b', ["cr"]), ('c', ["dq", "doublequote"]), ('d', ["extend"]),
    ('e', ["ex", "extendnumlet"]), ('f', ["fo", "format"]), ('g', ["hl", "hebrewletter"]),
    ('h', ["ka", "katakana"]), ('i', ["lf"]), ('j', ["ml", "midletter"]),
    ('k', ["mn", "midnum"]), ('l', ["mb", "midnumlet"]), ('m', ["nl", "newline"]),
    ('n', ["nu", "numeric"]), ('o', ["ri", "regionalindicator"]), ('p', ["sq", "singlequote"]),
    ('q', ["wsegspace"]), ('r', ["zwj"])]
  runs :=
    [".10im2b.18q.c.4p.4k.l.n10jk.5a26.4e.a26.10m.36a.2f.7a.j.2a.5a23.a31.a480.6a34d112a5.a2.2a4",
    "ka.6aja3.a.a20.a83.a139.d7a166.a38.2a4.aja41ka.6d45.d.d2.d2.d.8g27.4g4aj.11f6.6k2.2d11.f.3",
    "a43d21n10.nk.a2da99.ad7f.d6a2d2.d4a2n10a3.2a.15fada30d27.2a89d11a.14n10a33d9a2.2k.a.2d.2a2",
    "2d4ad9ad3ad5.18a25d3.4a11.5a24.a6.f2.5d9a42d24fd33a54d3ad18ad7a10d2.2n10.a16d3.a8.2a2.2a22",
    ".a7.a.3a4.2dad7.2d2.2d3a.8d.4a2.a3d2.2n10a2.10a.d.2d3.a6.4a2.2a22.a7.a2.a2.a2.2d.d5.4d2.2d",
    "3.3d.7a4.a.7n10d2a3d.11d3.a9.a3.a22.a7.a2.a5.2dad8.d3.d3.2a.15a2d2.2n10.9ad6.d3.a8.2a2.2a2",
    "2.a7.a2.a5.2dad7.2d2.2d3.7d3.4a2.a3d2.2n10.a.16da.a6.3a3.a4.3a2.a.a2.3a2.3a3.3a12.4d5.3d3.",
    "d4.2a.6d.14n10.16d5a8.a3.a23.a16.2dad7.d3.d4.7d2.a3.2a.2a2d2.2n10.16ad3.a8.a3.a23.a10.a5.2",
    "dad7.d3.d4.7d2.6a2.a2d2.2n10.a2d.12d4a9.a3.a41d2ad7.d3.d4a.5a3d.7a3d2.2n10.10a6.d3.a18.3a2",
    "4.a9.a.2a7.3d.4d6.d.d8.6n10.2d2.61d.2d7.12d8.n10.87d.2d9.11d7.n10.38a.23d2.6n10.11d.d.d.4d",
    "2a8.a36.4d20.d2a5d11.d36.9d.100d20.n10.12d4.4d3.d3.2d7.3d4.13d12.dn10d4.2a38.a.5a.2a43.a33",
    "3.a4.2a7.a.a4.2a41.a4.2a33.a4.2a7.a.a4.2a15.a57.a4.2a67.2d3.32a16.16a86.2a6.3a620.2a17qa26",
    ".5a75.3a11.7a18d4.9a19d3.11a18d2.12a13.a3.d2.64d32.9d.2n10.33d3fdn10.6a89.7a5d2a34da.5a70.",
    "10a31.d12.4d12.10n10.128n10.38a23d5.57d10.d29.2dn10.6n10.22d31.49d5a47d17a8.3n10.17d9.12d3",
    "a30d13a2n10a44d14.12a36d20.8n10.3a3n10a36.2a11.5a43.2a3.16d3.d21a4da6da2d3a.5a192d64a278.2",
    "a6.2a38.2a6.2a8.a.a.a.a31.2a53.a7.a.3a3.a7.3a4.2a6.4a13.5a3.a7.3q7.q3.drf2.8l2.10l.2jm2f5e",
    ".15e2.3k.15e.10qf5.f10.a.13a.16a13.51d33.17a.4a.2a10.a.3a5.6a.a.a.a4.a11.2a4.5a5.4a.17a41.",
    "813a52.1814a229.6a4d3a2.12a38.a.5a.2a56.7a.15da23.9a7.a7.a7.a7.a7.a7.a7.a7.d32.47a.464q.4a",
    ".36d6.h5.5a2.92d2h2.3h91.h4.5a43.a94.17a32.48h16.208h47.h88.27816a1165.67a46.2a269.3a16n10",
    "a2.20a47d4.d10.a31d2a80d2.22a198.2a2.a.a8.21a16da3da4da23d5.4d.19a52.12d2a50d18.10n10.6d18",
    "a6.3a.a2dn10a28d8.2a23d13.12a29.3d4a47d14.14an10.11d.10n10.6a41d14.9a3da8d2.2n10.33d3.50d.",
    "d3.2d2.5d2.d.30a11d5.2a3d2.10a6.2a6.2a6.9a7.a7.a58.6a115d8.d2.2n10.6a11172.12a23.4a49.8964",
    "a7.12a5.5gdg10.g13.g5.g.g2.g2.g10a98.33a363.18a64.2a54.40a12.4d16k.2jk.11d16.3e2.24e3k.l.k",
    "j.26a5.a135.2f.7l.4k.l.n10jk.5a26.4e.a26.11h56d2a31.3a6.2a6.2a6.2a3.28f3.4a12.a26.a19.a2.a",
    "15.2a14.34a123.69a53.136d.130a29.3a49.15d.31a32.13a30.5a38d5.5a30.2a36.4a8.a5.42a158.2n10.",
    "6a36.4a36.4a40.8a52.12a11.a15.a7.a2.a11.a15.a7.a2.3a52.12a311.9a22.10a8.24a6.a42.a9.69a6.2",
    "a.a44.a2.3a.2a23.10a23.9a31.65a19.a2.10a22.10a26.70a56.6a2.64ad3.d2.5d4a4.a3.a29.2d3.4d.32",
    "a29.3a29.35a8.a28d2.25a54.10a22.10a19.13a18.110a73.55a51.13a51.13a36d4.8n10.6n10a28.3d5.a2",
    "3.250a42.d2.3a2.16a3.55d4a29.10a.8a22d11.31a18d4.42a21.27a23.9d3a53d15.31n10da2d2a.9d4a45d",
    "11.2f.4d.10f.2a25.7n10.6d3a36d14.n10.4ad2a.8a35d.2a.9d3a48d14a4.4d4.d2n10a.a.35a18.a25d12.",
    "6da2d.62a7.a.a4.a15.a10.7a47d12.5n10.6d4.a8.2a2.2a22.a7.a2.a5.d2ad7.2d2.2d3.2a.6d.5a5d2.2d",
    "7.3d5.11a10.a.2a.a38.ad9.d.2d.d4.d5ada.13d2.29a53d18a4.5n10.4da3.30a48d20a2.a.8n10.166a47d",
    "7.2d9.23a4d2.34a48d17.3a.11n10.38a43d13a.7n10.6n20.57d15.4n10.198a44d15.101a64n10.21a8.2a.",
    "2a8.a2.a24d6.d2.2d4adad2.12n10.70a8.2a39d7.2d7a.ad.27ad10a40d7ad4.8d.8ad11a46d16.3a.18a73.",
    "199a33.15n10.6a9.a37d8.d8a.15n10.24a30.2d22.d14.73a7.a2.a38d6.3d.d2.d7ad.8n10.6a6.a2.a32d5",
    ".d2.d5a.7n10.310a19d4.9d2ada13.a34d7.3d5.13n10d.85a.79a922.102a111.17a196.2636a97.15a1072f",
    "16da6d15.10a3995.5a583.6841a30d18n10.1734a569.7a31.n10.6a79.n10.6a30.2d5.11a48d7.9a4.12n10",
    ".9a21.5a19.432a45.3n10.198a64.128a75.4dad55.7d4a13.64a2.ad.11d2.16382h4.h7.h2.h.287h3.50h.",
    "14h4.2712a107.5a13.3a9.7a10.3d2.f4.4172n10.518d46.2d23.542d5.3d6f8d8.2d7.30d4.148d3.443a85",
    ".a71.a2.2a.2a2.2a4.a12.a.a7.a65.a4.2a8.a7.a28.a4.a5.a.3a7.a340.2a25.a25.a31.a25.a31.a25.a3",
    "1.a25.a31.a25.a8.2n50.512d55.4d50.8d.14d.22d5.d15.1104a31.6a6.213d7.d17.2d7.d2.d5.5a62.33d",
    ".112a45.3d7a7.2n10.4a.321a30d.17a44d4n10.470a28d4n10.214a30d2an10.485a7.a4.a2.a15.a197.11d",
    "7.41a68d7a.4n10.1190a4.a27.a2.a.2a.a10.a4.a.a.6a.4a.a.a.a3.a2.a.2a.a.a.a.a.a2.a.2a4.a7.a4.",
    "a4.a.a10.a17.5a3.a5.a17.628a26.6a26.6a26.92o26.507d5.2032n10.787463f.30d96.128d240.196112"]

def sentences : Division where
  values :=
    [('a', ["at", "aterm"]), ('b', ["cr"]), ('c', ["cl", "close"]), ('d', ["ex", "extend"]),
    ('e', ["fo", "format"]), ('f', ["lf"]), ('g', ["lo", "lower"]), ('h', ["nu", "numeric"]),
    ('i', ["le", "oletter"]), ('j', ["sc", "scontinue"]), ('k', ["st", "sterm"]),
    ('l', ["se", "sep"]), ('m', ["sp"]), ('n', ["up", "upper"])]
  runs :=
    [".9mfm2b.18mkc.4c3.2j2a.h10j.4k.n26c.c.3g26c.c.7l.26m.9gc.e.7g.4gc.4n23.n7g24.g8ngngngngngn",
    "gngngngngngngngngngngngngngngngngngngngngngng2ngngngngngngngng2ngngngngngngngngngngngngngn",
    "gngngngngngngngngngn2gngng3n2gngn2gn3g2n4gn2gn3g3n2gn2gngngn2gng2ngn2gn3gngn2g2ing3i4n2gn2",
    "gn2gngngngngngngngng2ngngngngngngngngng2n2gngn3gngngngngngngngngngngngngngngngngngngngngng",
    "ngngngngngngngng7n2gn2g2ngn4gngngngng69ig36i7g2.4i12.14g5.7i.i.17d112ngngi.ng.2g4.n.6n.n3.",
    "n.n2gn17.n9g35ng2n3g3ngngngngngngngngngngngng5ng.ngn2g2n51g48ngngngngngngngngngngngngngngn",
    "gngng.d7ngngngngngngngngngngngngngngngngngngngngngngngngngngngn2gngngngngngng2ngngngngngng",
    "ngngngngngngngngngngngngngngngngngngngngngngngngngngngngngngngngngngngngngngngngngng.n38.2",
    "i.3j.2g41k.7d45.d.d2.d2.d.8i27.4i5.12e6.6j2.2d11.ek3i43d21h10.h2.i2di99kid7e.d6i2d2.d4i2h1",
    "0i3.2ik3.12eidi30d27.2i89d11i.14h10i33d9i2.2jki.2d.2i22d4id9id3id5.9k.k.3k2.i25d3.4i11.5i2",
    "4.i6.e2.5d9i42d24ed33i54d3id18id7i10d2k2h10.i16d3.i8.2i2.2i22.i7.i.3i4.2did7.2d2.2d3i.8d.4",
    "i2.i3d2.2h10i2.10i.d.2d3.i6.4i2.2i22.i7.i2.i2.i2.2d.d5.4d2.2d3.3d.7i4.i.7h10d2i3d.11d3.i9.",
    "i3.i22.i7.i2.i5.2did8.d3.d3.2i.15i2d2.2h10.9id6.d3.i8.2i2.2i22.i7.i2.i5.2did7.2d2.2d3.7d3.",
    "4i2.i3d2.2h10.i.16di.i6.3i3.i4.3i2.i.i2.3i2.3i3.3i12.4d5.3d3.d4.2i.6d.14h10.16d5i8.i3.i23.",
    "i16.2did7.d3.d4.7d2.i3.2i.2i2d2.2h10.16id3.i8.i3.i23.i10.i5.2did7.d3.d4.7d2.6i2.i2d2.2h10.",
    "i2d.12d4i9.i3.i41d2id7.d3.d4i.5i3d.7i3d2.2h10.10i6.d3.i18.3i24.i9.i.2i7.3d.4d6.d.d8.6h10.2",
    "d2.13i48di2d7.5i7d8.h10.39i2.i.i5.i24.i.i10di2d9i.2i5.i.d7.h10.2i4.32i.23d2.6h10.11d.d.dc4",
    "d2i8.i36.4d20.d2i5d11.d36.9d.57i43d20ih10k2.4i6d4i4d3id3i2d7i3d4i13d12idh10d4.2n38.n.5n.2i",
    "43.gi332.i4.2i7.i.i4.2i41.i4.2i33.i4.2i7.i.i4.2i15.i57.i4.2i67.2d3.2k.4k2.23i16.16n86.2g6.",
    "3i620.ki17mi26c2.3i75.3i11.7i18d4.9i19d3k2.9i18d2.12i13.i3.d2.12i52d32.3i.4id.2h10.24jk.4j",
    "k.d3edh10.6i89.7i5d2i34di.5i70.10i31.d12.4d12.8k2h10i30.2i5.11i44.4i26.6h10.38i23d5.4i53d1",
    "0.d29.2dh10.6h10.13ik4.4d31.49d5i47d17i8.k2h10k2.2k2.11d9.9k3d3i30d13i2h10i44d14.12i36d20.",
    "3k2.3h10.3i3h10i36k2g9ng.5i43.2i3.16d3.d21i4di6di2d3i.5g192d64ngngngngngngngngngngngngngng",
    "ngngngngngngngngngngngngngngngngngngngngngngngngngngngngngngngngngngngngngngngngngngngngng",
    "ngngngngngngngngngngngngngngngng9ngngngngngngngngngngngngngngngngngngngngngngngngngngngngn",
    "gngngngngngngngngngngngngngngngngngngngng9n8g6.2n6.2g8n8g8n8g6.2n6.2g8.n.n.n.ng8n8g14.2g8n",
    "8g8n8g8n8g5.g2n5.g.3g3.g2n5.3g4.2g2n4.4g8n5.5g3.g2n5.3m11ed2e2.3j2.3c8.4a.3l2e5m.9c2.k2.7c",
    "2k3.21me5.e10.g.11c2g.13c2.g13.51d33.17n.4n.2gn3g2n3g.n.3n5.6n.n.n.n4.gn4gi4g.2g2n2.5ng4.4",
    "g.17n16g16i3ngi4.383c4.29c2.395n26g26.625c6.7c14.79c2.31c10.403c22.63c4.32c2.514n48g48ngn3",
    "g2ngngngn4gng2ng8n3gngngngngngngngngngngngngngngngngngngngngngngngngngngngngngngngngngngng",
    "ngngngngngngngngngngngngngng2.6ngngd3ng.12g38.g.5g.2i56.7i.15di23.9i7.i7.i7.i7.i7.i7.i7.i7",
    ".d32c14.14c2.2c10.4ki.12k.5c.16k2c8.419mjk.2i3c10.2c8.c3.i9d6.i5.2i5.4i86.2d2.2i3.i90.i4.5",
    "i43.i94.17i32.48i16.512i6592.64i22157.67i46.ki269.k2i16h10i2.20ngngngngngngngngngngngngngn",
    "gngngngngngngngngngid4.d10.ingngngngngngngngngngngngngng3d2i80d2.k.3k.31i9.2ngngngngngngng",
    "3ngngngngngngngngngngngngngngngngngngngngngngngngngngngngngngng10ngngn2gngngngngi.2ngnging",
    "ng3ngngngngngngngngngngn5gn5gngngngngngngngn4gngn2g.2ng.g.gngngngn.21g3ngig3i7di3di4di23d5",
    ".4d.19i52.2k2.8d2i50d18.8k2h10.6d18i6.3i.i2dh10i28d8.ki23d13.12i29.3d4i47d14.7k2.5ih10.6i5",
    "di10h10i5.i41d14.9i3di8d2.2h10.3k3i23.3id3i50did3i2d2i5d2idi.24i3.2i11d5k2i3d2.10i6.2i6.2i",
    "6.9i7.i7.g43.g14.6g80i35d8kd2.2h10.6i11172.12i23.4i49.8452i366.2i106.38g7.12g5.5idi10.i13.",
    "i5.i.i2.i2.i108.33i363c2.16i64.2i54.40i12.4d16j2.j.3c2.7d16.j2.2c16.2c2.7j2a.2jk2jc6.4j.12",
    "i5.i135.2e.k.6c2.2j2a.h10j.4k.n26c.c.3g26c.c.c2kc2j.i56d2i31.3i6.2i6.2i6.2i3.28e3.4i12.i26",
    ".i19.i2.i15.2i14.34i123.69i53.136d.130i29.3i49.15d.31i32.13i30.5i38d5.5i30.2i36.4i8.i5.42n",
    "40g40i78.2h10.6n36.4g36.4i40.8i52.12n11.n15.n7.n2.g11.g15.g7.g2.3i52.12i311.9i22.10i8.24gi",
    "2g3.g42.g9.69i6.2i.i44.i2.3i.2i23.10i23.9i31.65i19.i2.10i22.10i26.70i56.6i2.64id3.d2.5d4i4",
    ".i3.i29.2d3.4d.22k2.8i29.3i29.35i8.i28d2.25i54.10i22.10i19.13i18.110i73.55n51.13g51.13i36d",
    "4.8h10.6h10i6n22.3d5.ig22.250i42.d2.3i2.16i3.55d4i29.10i.8i22d11.4k5.22i18d4k4.38i21.27i23",
    ".9d3i53d15k2.29h10di2d2i.9d4i45d11.2ek4d.10e.2i25.7h10.6d3i36d14.h10.k3id2i.8i35d.2i.9d3i4",
    "8d14i4k2.2d4kd2h10i.i.k2.32i18.i25d12k2.k2.di2d.62i7.i.i4.i15.i10k.6i47d12.5h10.6d4.i8.2i2",
    ".2i22.i7.i2.i5.d2id7.2d2.2d3.2i.6d.5i5d2.2d7.3d5.11i10.i.2i.i38.id9.d.2d.d4.d5idik2.11d2.2",
    "9i53d18i4k2.3h10.4di3.30i48d20i2.i.8h10.166i47d7.2d9.k2.5k15i4d2.34i48d17k2.i.11h10.38i43d",
    "13i.7h10.6h20.28i27.2d15.4h10.2k3.i7.185i44d15.101n32g32h10.21i8.2i.2i8.i2.i24d6.d2.2d4idi",
    "d2k.k.9h10.70i8.2i39d7.2d7i.id.27id10i40d7id4.3k2.3d.8id11i46d16.k2i.18i73.199i33.15h10.6i",
    "9.i37d8.d8ik2.13h10.24i30.2d22.d14.73i7.i2.i38d6.3d.d2.d7id.8h10.6i6.i2.i32d5.d2.d5i.7h10.",
    "310i19d4k2.7d2idi13.i34d7.3d5k2.11h10d.85i.79i922.102i111.17i196.2636i97.15i1072e16di6d15.",
    "10i3995.5i583.6841i30d18h10.1734i569.7i31.h10.4k2i79.h10.6i30.2d5k.10i48d7k2.7i4k.11h10.9i",
    "21.5i19.432i45.k2h10.198n32g32.24k.103i75.4did55.7d4i13.64i2.id.11d2.14i6136.8i1238.41i10.",
    "8935i4.i7.i2.i291.15i.29i3.2i.14i4.8i396.2308i107.5i13.3i9.7i10.3d2ke4.4172h10.518d46.2d23",
    ".542d5.3d6e8d8.2d7.30d4.148d3.443n26g26n26g7.g18n26g26n.n2.2n.2n2.2n4.n8g4.g.g7.g11n26g26n",
    "2.n4.2n8.n7.g26n2.n4.n5.n.3n7.g26n26g26n26g26n26g26n26g26n26g26n26g28.2n25.g25.g6n25.g25.g",
    "6n25.g25.g6n25.g25.g6n25.g25.g6ng.2h50.512d55.4d50.8d.14d.3k.18d5.d15.1104g10ig20.6g6.213d",
    "7.d17.2d7.d2.d5.5g62.33d.112i45.3d7i7.2h10.4i.321i30d.17i44d4h10.470i28d4h10.214i30d2ih10.",
    "485i7.i4.i2.i15.i197.11d7.41n34g34d7i.4h10.1190i4.i27.i2.i.2i.i10.i4.i.i.6i.4i.i.i.i3.i2.i",
    ".2i.i.i.i.i.i2.i.2i4.i7.i4.i4.i.i10.i17.5i3.i5.i17.628n26.6n26.6n26.1260c3.1399h10.1030i42",
    "720.32i4154.6i222.2i5762.14i7473.15i622.2466i542.1506i4939.5i4192.711761e.30d96.128d240.19",
    "6112"]

end Division

end ServiceWatch.Unicode
