import ServiceWatch.Unicode.CodeSet

/-! The version of the Unicode standard in which each code point got its meaning. Messages follow
version 17; patterns follow version 16, for which the characters of version 17 have no meaning yet. -/
namespace ServiceWatch.Unicode.Age

/-- The versions that patterns can name, in order: the sign in the table, and the names. -/
def versions : List (Char × List String) :=
  [('a', ["1.1", "v11"]), ('b', ["2.0", "v20"]), ('c', ["2.1", "v21"]), ('d', ["3.0", "v30"]),
    ('e', ["3.1", "v31"]), ('f', ["3.2", "v32"]), ('g', ["4.0", "v40"]), ('h', ["4.1", "v41"]),
    ('i', ["5.0", "v50"]), ('j', ["5.1", "v51"]), ('k', ["5.2", "v52"]), ('l', ["6.0", "v60"]),
    ('m', ["6.1", "v61"]), ('n', ["6.2", "v62"]), ('o', ["6.3", "v63"]), ('p', ["7.0", "v70"]),
    ('q', ["8.0", "v80"]), ('r', ["9.0", "v90"]), ('s', ["10.0", "v100"]),
    ('t', ["11.0", "v110"]), ('u', ["12.0", "v120"]), ('v', ["12.1", "v121"]),
    ('w', ["13.0", "v130"]), ('x', ["14.0", "v140"]), ('y', ["15.0", "v150"]),
    ('z', ["15.1", "v151"]), ('A', ["16.0", "v160"])]

def newest : Char := 'B'

/-- Runs of code points of one version; a point stands for those without a meaning. -/
def runs : List String :=
  ["a502d4a30d8fgd18g3h11i14a89d5g2a47da10d5g17a70d9fg8h5g3a2df13j4a2j2.2ai3ap.4a7.a.a20.a44ja",
    "7df2adadadada18e2fg5h4da12da66da12da41jd2f2d4a53f2a2f2a2f2ia28d2a8h2a2i6f16i4j16k2l2p8.a38",
    ".2a7ta39tad.2p2m.b17hb13a10ia9bh3.8a27.4ta5.11g4mpj5hag9j5aoxhala26j5a19d3g3h6la14f2a72d2a",
    "5da15da30g2a10d5gd14.d30g3d27.2g3h30j18d49f.14i59.2t3k46.2k15.l28.2l.s11.5x31Bx2.5Ax8mpm11",
    "p6q2xr8w10x11tr15qm27pka3ga53l2a18kla5kl2a25j2l5pk2i2hi2pa3.a8.2a2.2a22.a7.a.3a4.2aga7.2a2",
    ".2a3h.8a.4a2.a5.2a21ks2t.2gag.a6.4a2.2a22.a7.a2.a2.a2.2a.a5.4a2.2a3.3j.7a4.a.7a15jt.10a3.a",
    "7ga.a3.a22.a7.a2.a5.2a10.a3.a3.2a.15ag3.2a10mg.7qs6.a3.a8.2a2.2a22.a7.a2.ga4.2a8j.2a2.2a3.",
    "7wa2.4a2.a3j2.2a11gl6.10a2.a6.3a3.a4.3a2.a.a2.3a2.3a3.3a8ha3.4a5.3a3.a4.2j.6a.14ha12g8.5pa",
    "3ta8.a3.a23.a10pa5.2xja7.a3.a4.7a2.j2q.Bx.2a2j2.2a10.7uj8rpa2ta8.a3.a23.a10.a5.2g2a7.a3.a4",
    ".7a2.5Bxa.a2i2.2a10.i2y.12spa2wa8.a3.a23la16ls2ja6j.a3.a4lr.4r3ar7qa2j2.2a10j6r3j7.wd2.d18",
    ".3d24.d9.d.2d7.3d.4d6.d.d8.6p10.2d3.12a58.4a29.37a2.a.ua2ua.uau6a4ua7ua3.a.au2a2ua13ua3.2a",
    "5.a.a6y.a10.2a2m2.32b72.b33dj2.4b27l4b6db.b21d3b7dbd3.d15.jdh2j3k4l2.37d34jd5jd2jd7j3d4j6d",
    "26j64k4j2a38.m.5m.2a39f2h2ahm3a90k5a68k5a82k6d7hd63hd.d4.2d7.d.d4.2d39hd.d4.2d31hd.d4.2d7.",
    "d.d4.2d7hd7.d23hd31hd.d4.2d7hd39hd19.2l2h2d28.3h26.6d85q.2q6.2kd630k9d29.3d81p8.7f13xf7x.9",
    "xf23.9f20.12f13.f3.f2.12d93g.2d10.6g10.6d15xd10.6d88t.7d42j.5k70.10g29p2.g12.4g12.4g.3g42.",
    "2g5.11h42k2.4h26.6h10k.3h2g32h28.2h2k63.k29.2k11.6k10.6k14.2p15w2x14B15.2B12.20i76x.A2i45x",
    "2Aj43m3j12m6l52.8l4j56.3j15.3j51r9A2.5t43.2t3m8.8k35m4sp2u.5g108h88i7j28p15s4xrlki2a155bj4",
    "a90j6a22.2a6.2a38.2a6.2a8.a.a.a.a31.2a53.a15.a14.2a6.a19.2a3.a9.a47da23fd6f5g2h2fh7f5j.o4a",
    "7f.2a27.h5l8.3a11bcd3f2h4k3lnp3qsxB.14a18d2f7hi4j.15a57d2ghf15hi2jk3a48dij4kq2.4a91d9f12a2",
    "42f14ada121dfd30f52g2h11i12kl11p7r4sa37d2A3.22a11.21a139f20ga150f10a80d8f8a20g2f2hda86d2f1",
    "2h2f10g8h11jk2g2h16ij10k3j4k10lk19lkl4k24pa4la4l2a28la35lala4l3aka7l2a7f14a31l3a24la14lh7i",
    "4mjml2f28j4f16d256f512g14h6i7j5i4j41p3j5k5p26.2p32Bwp34t3p12up8st25q4t15uh47xh47xi13j3kj3i",
    "4j6k2h107k7m2.5h45.m.5m.2h54m2.7hl.14lh23.9h7.h7.h7.h7.h7.h7.h7.h7.j32h24j4h2j19km10p7r2s5",
    "t5uw3x11.34d26.d89.12d214.26d12z4a56d3f3da.a84f2.2a6f2a94f.5a40jst.a94.a16d24l3w5h16j20A2.",
    "9zf16a29g2.a36k12gf15a28g2ha50f15a12g4a47va119g4a99g2a31gd6582w10g64a20902h22j8k8mq9s21t5w",
    "13x3d1165.3d18f2d16fd12fd3fd.9k48j300.20j32l2j18m8j28p6qmk88.8h23i4j5i2j107l2ql2m2p12l10mp",
    "3rtp2q6t2u6x2u5w4A3B2x2BxBx5A3.20Bx3w2pm2lj5h44w.3k10.6i56.8j69r.8j12.6k28q2t2j84.11jk29.3",
    "k78.k11.4k2p31.j55.9j14.2j10.2j4k28p4k67.24k5m23.10l6.2l6.2l6.9l7.l7.p48q4p2u2w4.4q80k46.2",
    "k10.6b11172.12k23.4k49.4b2048a6702m2f59k3.2h106.38a7.12a5.5da25.a5.a.a2.a2.a108l16xB16a365",
    "x16a64B2a54B7xe32a12fgx2f16h10.6a4j3p7q2a21f2g2a10.a19.a4.4a3fa.a135.2a.a94f2a94.3a6.2a6.2",
    "a6.2a3.3a7.a7.10d3ca3g12.g26.g19.g2.g15.2g14.34g123.5g3.4g45.3g9h75p2r2.j12w.3p.47j46.130j",
    "29.3j49.15p28.4e31pe4.9s3e27.5p43.5g30.gh36.4h14.42e38g2e38g80.2g10.6r36.4r36.4p40.8p52.11",
    "px11.x15.x7.x2.x11.x15.x7.x2.3A52.12p311.9p22.10p8.24x6.x42.x9.69g6.2g.g44.g2.3g.2gk22.k9p",
    "63.8p9.48q19.q2.5q5i26k2.3ij26.5jB26.38m56.4q2m2q16.2q46h4.h2.5h8.h3.h27t2.2h3.4h9t.7h9.7k",
    "32p32.32p39.4p12.9k54.3k29.2k27.5k8p18.7p4.12p7.80k73.55q51.13q51.7q6t40.8t10.6A38.3A29.8A",
    "2.208k31.w42.w3.2w2.16A3B3.8B9.33B2Ay3t40.8t42.22x26.38w28.20u23.9l78.4l30x6.9pk66x.10t.2m",
    "25.7m10.6m53.m14t3w.8p39.9m73q4pw2m10pq5.p20.11p18.p43ry3.62q7.q.q4.q15.q11.6p59.5p10.6qp3",
    ".p8.2p2.2p22.p7.p2.p5.tp9.2p2.2p3.2q.6p.5p7.2p7.3p5.11A10.A.2A.A38.A10.A.2A.A4.A10.A2.8A2.",
    "29r90wr.rtuw2.30p72.8p10.166p54.2p18q20.34p69.11p10.6r13.19m56ux.6m10.6A20.28q26t.2q15.4q1",
    "6x7.185t60.100p83.12pw7.2w.2w8.w2.w30.w2.2w12.9w10.70u8.2u46.2u11.27s72.8s52u2s23ts5.13x16",
    "p57.7y10.86B8.88A34.14A10.6r9.r45.r14.10r29.3r32.2r22.r14.73s7.s2.s44.3s.s2.s9.8s10.6t6.t2",
    ".t37.t2.t6.7t10.6B44.4B10.246t25.7y17.y41.3y28A.85w.15u50.13ui879p42q.102i99p12.i4p.11q196",
    ".2636x99.13k1071yu9y29.10A3995.5q583.6841A58.1734l569.7p31.p10.4p2x79.x10.6p30.2p6.10p70.1",
    "0p10.p7.p21.5p19.432A58.198t91.5B25.2B25.44m69u6.4um47u9.7m17.64rsu2w.11w2B5.9r6125t5u6B8r",
    "755w483.41Aw9B22.97B115.8701x4.x7.x2.l2s285x4.15y.29u3.2y.14u4.8s396.2308p107.5p13.3p9.7p1",
    "0.2p8.3932A250B3.3A436.6B23.15B17.15x46.2x23.9x116.60e246.10e39.2je180q11x2.21h70.122y20.1",
    "2t20.12g87.9i18t7.135e85.e71.e2.2e.2e2.2e4.e12.e.e4ge2.e65.e4.2e8.e7.e28.e4.e5.e.3e7.e338h",
    "2.2e290i2.2e50q652.15q5.q15.1104x31.6y6.213r7.r17.2r7.r2.r5.5y62.33y.112u45.3u14.2u10.4u2.",
    "320x31.17u58.5u.464y42.214A43.4A.192B31.B22.8B2.224x7.x4.x2.x15.p197.2p16.41r75u.4r10.4r2.",
    "785t68.76u61.194m4.m27.m2.m.2m.m10.m4.m.m.6m.4m.m.m.m3.m2.m.2m.m.m.m.m.m2.m.2m4.m7.m4.m4.m",
    ".m10.m17.5m3.m5.m17.52m2.270j44.4j100.12l15.2l14p.l15.l15p22.10k11p2w3k31tlkl11klkl2kl3kl3",
    "k5l8kl7kl10m2uw3l9klk2l2kl10k4l2kl10r18w.56l26kl2.13k34l9r.4k9.7l2.14s6.154l33p12q3l6pl70p",
    "q2l20p12l37pl5p4q5p12l17p7q8l63plpl182pl4p2ql62p2m4p7q5l24p18rp41rp86l5ml16ml3mlmlmlml3ml6",
    "m2l4mlm2l4ml12p2q2l11p48l70p10qr2s2uw2B.3yx3p13.3p4r3s2tuw2.3l116y3B4y5p85t4y.6u12.4x.15p1",
    "2.4p56.8p10.6p40.8p30.2w2A10.4A2.14B9.39s12wu3q9r6sr8s8rs2r12ur12st3r15s13t5uwt4w2xtut4q5r",
    "13s6t11w2u6w3u2t10u6qt2u8wxu3s23t25u84B4.8t14.2u4wy3u3x2.3u3w4y2AB.3BAu6w19x4y3w7x4y3Ayw3x",
    "3A.B.4By2w7x3y2A.2Ax8yAB.4Bx7y2.7w147.w55A37w10B.1027b2e42711w7x2.32k4149x4yB6l222.2q5762B",
    "12.2s7473.15z622.2466e542.1504b2w4939.5y4192B4298.52100b2.65534b2.65534b2.65534b2.65534b2.",
    "65534b2.65534b2.65534b2.65534b2.65534b2.65534b2.e.30e96.128g240.65038b131074"]

/-- The runs in ascending order, each with the first code point behind it. -/
def table : List (Nat × Char) := RunLength.readRuns (RunLength.characters runs) 0

def added : CodeSet := .ofRuns (· = newest) table

/-- The characters that have a meaning in version 16. -/
def established : CodeSet := CodeSet.characters.diff (.ofRuns (fun c => c = '.' || c = newest) table)

def upTo? (name : String) : Option CodeSet :=
  let earlier := versions.takeWhile fun (_, names) => !names.contains name
  match versions.drop earlier.length with
  | [] => none
  | (sign, _) :: _ =>
    let signs := sign :: earlier.map Prod.fst
    some (CodeSet.characters.inter (.ofRuns signs.contains table))

end ServiceWatch.Unicode.Age
