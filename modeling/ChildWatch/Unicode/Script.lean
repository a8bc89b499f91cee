import ChildWatch.Unicode.Runs

/-! # Scripts

The script of every character that has one, and the scripts it is used with. A script is known by
its place in the list of names, counted from one.

* `Script.of` — the script of a character.
* `Script.extensions` — the scripts a character is used with: those listed for it, or else its own.
* `Script.named?` — the script of a name. -/

namespace ChildWatch.Unicode

/-- A script, by its place in the list of names. -/
structure Script where
  place : Nat
deriving DecidableEq, Repr

namespace Script

/-- The names of the scripts, the short one first, in lower case and without underscores. -/
def names : List (List String) :=
  [["adlm", "adlam"], ["ahom"], ["hluw", "anatolianhieroglyphs"], ["arab", "arabic"],
   ["armn", "armenian"], ["avst", "avestan"], ["bali", "balinese"], ["bamu", "bamum"],
   ["bass", "bassavah"], ["batk", "batak"], ["beng", "bengali"], ["berf", "beriaerfe"],
   ["bhks", "bhaiksuki"], ["bopo", "bopomofo"], ["brah", "brahmi"], ["brai", "braille"],
   ["bugi", "buginese"], ["buhd", "buhid"], ["cans", "canadianaboriginal"], ["cari", "carian"],
   ["aghb", "caucasianalbanian"], ["cakm", "chakma"], ["cham"], ["cher", "cherokee"],
   ["chrs", "chorasmian"], ["zyyy", "common"], ["copt", "coptic", "qaac"],
   ["xsux", "cuneiform"], ["cprt", "cypriot"], ["cpmn", "cyprominoan"], ["cyrl", "cyrillic"],
   ["dsrt", "deseret"], ["deva", "devanagari"], ["diak", "divesakuru"], ["dogr", "dogra"],
   ["dupl", "duployan"], ["egyp", "egyptianhieroglyphs"], ["elba", "elbasan"],
   ["elym", "elymaic"], ["ethi", "ethiopic"], ["gara", "garay"], ["geor", "georgian"],
   ["glag", "glagolitic"], ["goth", "gothic"], ["gran", "grantha"], ["grek", "greek"],
   ["gujr", "gujarati"], ["gong", "gunjalagondi"], ["guru", "gurmukhi"],
   ["gukh", "gurungkhema"], ["hani", "han"], ["hang", "hangul"], ["rohg", "hanifirohingya"],
   ["hano", "hanunoo"], ["hatr", "hatran"], ["hebr", "hebrew"], ["hira", "hiragana"],
   ["armi", "imperialaramaic"], ["zinh", "inherited", "qaai"], ["phli", "inscriptionalpahlavi"],
   ["prti", "inscriptionalparthian"], ["java", "javanese"], ["kthi", "kaithi"],
   ["knda", "kannada"], ["kana", "katakana"], ["kawi"], ["kali", "kayahli"],
   ["khar", "kharoshthi"], ["kits", "khitansmallscript"], ["khmr", "khmer"], ["khoj", "khojki"],
   ["sind", "khudawadi"], ["krai", "kiratrai"], ["laoo", "lao"], ["latn", "latin"],
   ["lepc", "lepcha"], ["limb", "limbu"], ["lina", "lineara"], ["linb", "linearb"], ["lisu"],
   ["lyci", "lycian"], ["lydi", "lydian"], ["mahj", "mahajani"], ["maka", "makasar"],
   ["mlym", "malayalam"], ["mand", "mandaic"], ["mani", "manichaean"], ["marc", "marchen"],
   ["gonm", "masaramgondi"], ["medf", "medefaidrin"], ["mtei", "meeteimayek"],
   ["mend", "mendekikakui"], ["merc", "meroiticcursive"], ["mero", "meroitichieroglyphs"],
   ["plrd", "miao"], ["modi"], ["mong", "mongolian"], ["mroo", "mro"], ["mult", "multani"],
   ["mymr", "myanmar"], ["nbat", "nabataean"], ["nagm", "nagmundari"], ["nand", "nandinagari"],
   ["talu", "newtailue"], ["newa"], ["nkoo", "nko"], ["nshu", "nushu"],
   ["hmnp", "nyiakengpuachuehmong"], ["ogam", "ogham"], ["olck", "olchiki"], ["onao", "olonal"],
   ["hung", "oldhungarian"], ["ital", "olditalic"], ["narb", "oldnortharabian"],
   ["perm", "oldpermic"], ["xpeo", "oldpersian"], ["sogo", "oldsogdian"],
   ["sarb", "oldsoutharabian"], ["orkh", "oldturkic"], ["ougr", "olduyghur"], ["orya", "oriya"],
   ["osge", "osage"], ["osma", "osmanya"], ["hmng", "pahawhhmong"], ["palm", "palmyrene"],
   ["pauc", "paucinhau"], ["phag", "phagspa"], ["phnx", "phoenician"],
   ["phlp", "psalterpahlavi"], ["rjng", "rejang"], ["runr", "runic"], ["samr", "samaritan"],
   ["saur", "saurashtra"], ["shrd", "sharada"], ["shaw", "shavian"], ["sidd", "siddham"],
   ["sidt", "sidetic"], ["sgnw", "signwriting"], ["sinh", "sinhala"], ["sogd", "sogdian"],
   ["sora", "sorasompeng"], ["soyo", "soyombo"], ["sund", "sundanese"], ["sunu", "sunuwar"],
   ["sylo", "sylotinagri"], ["syrc", "syriac"], ["tglg", "tagalog"], ["tagb", "tagbanwa"],
   ["tale", "taile"], ["lana", "taitham"], ["tavt", "taiviet"], ["tayo", "taiyo"],
   ["takr", "takri"], ["taml", "tamil"], ["tnsa", "tangsa"], ["tang", "tangut"],
   ["telu", "telugu"], ["thaa", "thaana"], ["thai"], ["tibt", "tibetan"], ["tfng", "tifinagh"],
   ["tirh", "tirhuta"], ["todr", "todhri"], ["tols", "tolongsiki"], ["toto"],
   ["tutg", "tulutigalari"], ["ugar", "ugaritic"], ["vaii", "vai"], ["vith", "vithkuqi"],
   ["wcho", "wancho"], ["wara", "warangciti"], ["yezi", "yezidi"], ["yiii", "yi"],
   ["zanb", "zanabazarsquare"]]

/-- The script of a name. -/
def named? (name : String) : Option Script :=
  (names.findIdx? (·.contains name)).map fun i => ⟨i + 1⟩

/-- The runs of characters of one script, as coded numbers; zero stands for no script. -/
def coded : String :=
  String.join [
    "W2QPh25QPh2k1Q0h2EQ0h24QMh20QUh20QWEh2c1Q4h24Q1EJQl3x13k10Q2k1103k10Q0k1300k10Q0k10Q2k10",
    "00k100Jk100_1k1DRFk1a4V1x1e5V00b1510n15102500s1u170Qu1305u1A0440Q540QD40Q240QV40Q94Ax1P4",
    "0x1h340QX14Do400x1o4102o4l14n1_4D0w1g3102g3j1a410Ea400Rs2100s200Ao440X1440g240QS4m2X13x1",
    "EX11QPX13B007B101B10LB006B000B203B108B101B103B700B301B004B10OB102n1005n1301n110Ln1006n10",
    "01n1001n1001n1100n1004n1301n1102n1200n1603n1000n160Gn1902l1008l1002l100Ll1006l1001l1004l",
    "1109l1002l1002l1100l1E03l110Bl1606l1002v3007v3101v310Lv3006v3001v3004v3108v3101v3102v360",
    "2v3301v3004v310Hv3901w4005w4202w4003w4201w4000w4001w4201w4202w420Bw4304w4202w4003w4100w4",
    "500w4D0Kw440Cz4002z400Mz400Fz4108z4002z4003z4601z4002z4001z4103z4109z4608z4CW2002W200MW2",
    "009W2004W2108W2002W2003W2601W2402W2003W2109W2002W2B0Cr2002r200o1r2002r2005r230Fr210Pr200",
    "2h400Hh420Nh4008h4000h4106h4200h4305h4000h4007h4509h4102h4B0v1.4300QR.4a101g2000g2004g20",
    "0Ng2000g200Mg2104g2000g2006g2009g2103g2V0d2W500Z1W530c1W500Z1W500EW5006W53Q1W5a10.4a3b1g",
    "1000g1400g110g1g10Q3g1.7q1e2e1003e1106e1000e1003e110e1e1003e110W1e1003e1106e1000e1003e11",
    "0Ee100u1e1003e110Y2e110Ve120Pe150r2O105O10.JJSj320g2Z42QAZ460Lp4800p4Ks11Q80JIB0Cq4002q4",
    "001q4B0z2c2109c2509c2501X31Q0X30QJX350u2X360g1X340b2J90Uj200Bj230Bj2300j220Bj2Tr4104r4A0",
    "h1e330Pe350Ae3201e3Vc2RH101H_1s400Ss410As4509s450Ds410j1x110Bx1J0i2700n17.1l4p1A703At1i2",
    "20Ei2202i2l1k3AV40g1g1102g17l4702x10QCx10Q6x13Q0x15Q0x12Q1x10Q40b1h24k10Vm1h24k13h24k1Ch",
    "20Vb2h20k1.1x1.7h2Lk1105k110b1k1105k1107k1000k1000k1000k100Uk110q1k100Ek100Dk1105k100Ik1",
    "102k1008k100BQ1x1s2Q00AQ0h210AQ0h2EQ00Ch220X1QD0W1x1E0b1Q0k12Q1h25Q0h2QQ0h2GQe1h22Q30vKQ",
    "L0AQK0.SQ.7GpJQ10f4Q.2h1Vh2p3R406Rb1g1000g1400g110t1X5601X5D00X5Me1806e1006e1006e1006e10",
    "06e1006e1006e1006e100VVz2QX10Pp100u2p1B0r6p1P0KQ0p10Q0p1OQ8p13x11q17Q3p13Q00r2v1101x11Q2",
    "v10Qv2X21Q2X240g1E00z2q100FQVEb1Q800QFX2Uq100.1QUq1m2Qk1X20Qt2X2d5Q.j6p1.1Q.lKp1ia1j520s",
    "1j580l1m2h9e5J0.2Vt2870X1Qb3h22Qn2h2J0Eh2i1n4209Q50t1.370b2b470Bb450VX1j1Z20Q0Z2Z1Y4A00Y",
    "4Sq120j2_1000Q9_1301_1Ua300s1N80DN109N103NVa3Y2t4N04t4Mx2905e1105e1105e1806e1006e100g1h2",
    "0Q8h20k13h21Q30l2Oj1x2109x250ZzAq1B0Mq130m1q1Ze80jBp110f3p1b106h2B04540Pu1004u1000u1001u",
    "1001u1009u1jF41Ql44V0F4Fx19Q50Dx11VY1Q00IQ003Q304400c44100Q00VQPh25QPh2AQ9X20Qi1X21QUq12",
    "05q1105q1105q1102q1206Q006Q904Q10Bl200Pl200Il2001l200El210Dl2X10w3l2402Q30i1Q208Qk2k100C",
    "Q200k1k10i1Q0x1X40Sn220m1KE00x1QQ30Z1n3802n3Qi140g1p340Td5000d5Z1q330Dq3f10l2W1l1d4Tx310",
    "9x350Z1w330Z1w330d1c170p1LA00LAf500Ef5006f5001f500Af500Ef5006f5001f520p1Z5B0s9k280Lk2907",
    "k2N05h200f1h2008h2a205T100T00h1T001T200T100TLw1008w1Vz3Ub3708b3l10It1001t1404t1RW4200W4P",
    "o2400o2Pf4b10V_2Nz230Jz210j1z23a2001a2407a2002a200Sa2102a2309a2608a260Vs3Vo3V0c1t230Bt28",
    "0r162066Lz1107z1Iy1407y1HX4603X4B06X4l20e2t3s10o1m3C0o1m3605m3d1r1709r150b1f120Sf1701f1l",
    "60U400f1i5002i5101i5F0547084W1054d1r370f1i4L0Pu3b10RPJ0Md180j2F30Z1F800FY2.1900.110Oj460",
    "9j450q1M00HM70c1p280.2c400Jh4A0Hd200k1d2z106Z3000Z3003Z300EZ300AZ350w1e2409e2503j1007j11",
    "01j110Lj1006j1001j1004j1000x18j1101j1102j1100j1500j1406j1106j1204j1A09c5000c5100c500b1c5",
    "009c5000c5100c5003c5009c5001c5701c5S0x2f3004f3T0d2Y5709Y5b50r1e410b1e4X10a2W3A09W350CX3I",
    "0v1v4509v450Ja3R0Q210E230M2u50x1Z1Z30o2h5B00h56Y1100Y1107Y1001Y100TY1001Y110BY1809Y1b207",
    "d310j1d310Ad3Q0d2k570o2k4C0FJu1_3609X1r207c4t20X1m4D09m4508D00i1D00DD90SD20Vu210Lu200Du2",
    "e206v2001v200h1v2200v2001v2008v2709v2505m1001m100a1m1001m1005m1609m150h1a5309a5r70Oq260G",
    "Y200e1Y220SY2q200m2E0n1w4C00w4vSSb30k3S004SA0Z6Sho20Y3UC0rY1b190wy3b140cI3ur60v1o1bs10uH",
    "860UY3009Y3301Y3k2x4009x450T9105990b2y3909y3006y300Ky340Iy3lD0v1f2b60w2w240OC10OCh10g2.2",
    "30u1.260G.2.100y40h31p10b2A06p180.t6y4rEb2e100b2Uy4W30o3y4yl803X2006X2001X2000X2_8v12X2E",
    "00v1S02v1100X2D03X270hCh3Ze20g3a140Ca1208a1609a1103a13Qxw30y7Q20pDQ50MQE0GQE0j1x110Mx180",
    "p3Qx10r7Q90c1Q10z1Q2x1GQ7x11Q6x1TQ3x1y1QK0b2k1v30JQB0JQB0s2Q80OQc40q2Q00c2Q001Q100Q101Q1",
    "03Q00BQ000Q006Q00W2Q003Q107Q006Q00RQ003Q004Q000Q206Q00pAQ10Z9Q10n1QhKg4E04g400Eg4lY10Uh2",
    "505h2q606h100Gh1106h1001h1004h140z1VW100Vl30i1i320Di3109i3301i3.90Ub5G0v1g5400g5lE0f1c3r",
    "60g1l3300l3.50Uu400Lu4701u4.606e1003e1001e100Ee100a6y210Fy2e10h2130913011mO0Z2Qh20y1QX60",
    "3400Q40014000410040094003400040004500430040004000400240014000410040004000400040004001400",
    "0410340064003400340004009400G44024004400G4p1014j80h1Q30Z3QB0EQ10EQ00EQ00a1Q90j5Qt10PQ0v1",
    "1QC0h1Q308Q601QD05Qv40uUQ20GQ20CQ20v6Q50BQ300QE0BQ30t1Q709Q50d1Q70TQ10BQ301QD08Qc10tAQ70",
    "DQ10CQ20AQ20u1Q000Q30FQ10BQ309Q60o4Q00c3QaW10.sf1p1V0ze4p110jq5p110mf7p1E0jJp1Xj20zGp1Xl",
    "10gw4p140ff8p1cyoL00QT0.2Q.30l7x1lm.50"]

/-- The table of all runs. -/
def table : RunTable Script := RunTable.ofLengths Script.mk (codedNumbers coded)

/-- **The script of a character**, if it has one. -/
def of (c : Char) : Option Script :=
  match table.find? c.toNat with
  | some s => if s.place = 0 then none else some s
  | none => none

/-- The runs of characters that are used with other scripts than their own, as coded numbers. -/
def codedExtensions : String :=
  String.join [
    "t50G6KRa1c1g1h1i1k1m1p1h2o2p2p3d4aG07BVX1h2m2.4b5A02Eh2122Eh2102h2m2902h2.4102Eh2c108ORV",
    "k1h2p3m4r4008OVk1h2w3m4r4Z5004OVh2X5005h1h2m4o4.400BLORVi1k1h2w3o4X5Z5006Rc1h1i1X2h2005V",
    "k1h2p3X5009Ra1u1h2p3o4r4X5Z500B5Va1i1k1u1h2p3o4r4X5002h2X5003a1h2o4004OVh2w3003Oh2r4002h",
    "2m4002e1h2102h2m4003Vh2Z5104k1h2p3Z5F06Oa1X2h2o4X5004Oa1h2o4002h2o4703h2m4o4002h2o4103Oh",
    "2o4007LOi1h2m4o4.4G01k1201k1I02h2w3503Lh2Z54C1h2412Rk1j802Vp3002Vh1012Vh2002Vh1X8035g1h1",
    "Y4074f1r1g3o4_4i5E074f1r1g3o4_4i50034o4_420814f1r1g3o4_4i5W10914r1s2t2u3X4i4o4AA24o4A934",
    "_4i56024o4Z3024r1yJ0FBX1j1l1n1W2h2r2d3f3v3c4w4z4Y500DBX1j1l1n1W2h2r2f3v3w4z4Y5H0LBX1Z1j1",
    "l1m1n1W2e2p2r2v2d3l3v3h4n4v4w4z4Y500NBX1Z1j1l1m1n1o1W2e2j2p2r2v2d3l3v3h4n4v4w4z4Y5094X1Z",
    "1.1p2s393BMn4s392n1Z3s392l1d2s7D2j1w4o793W2d3c5mQ93Ma3r4n503g1h1h2ll121Z4d214Is1p4q4h612",
    "X3.3102X3.3gc104BX1j1W2001X1004BX1j1W2003X1j1W2001X1005BX1f3z4Y5003BX1z4003X1f3c4004BX1f",
    "3z4002X1c4006X1W2r2v3w4z4001X1012X1c4011X1002X1c4002BX1003X1f3Y5051X1003X1d3f3003BX1c400",
    "2X1f3001X1004BX1f3c4031X100BBX1j1W2r2d3v3h4z4Y5c5002X1j1004X1j1W2c5012BX1001B012X1j1001d",
    "3b611k1s103Vh2o4101o4qH03h2X3.3V0214A06Kg1h1n2m3t3204Kk1_2m3o403X1j1h2cf302Rh2O026t30076",
    "Kg1.1o2m3a4A01a140314m3102Vh1iDF2p1y4107Ep1q1v1X2X3j5008Ep1q1v1X2X3.3j5005Ep1q1v1X2201p1",
    "118Ep1q1v1X2X3W5j5019Ep1q1v1X2m2X3W5j5056Ep1q1v1X2j5105Ep1q1v1X2076Ep1q1v1X2j5035Ep1q1v1",
    "X2A32Ep1205Ep1q1v1X2042v1X2105Ep1q1v1X2413p1v1X2011p1v232v1X2302v1X2w206Ep1q1v1X2j5002v1",
    "X2p4F1p1W1b11p1902p1y4m1d11p1u1m11p1FB1p1p101p1u2O1p1A41p1W3U1p1mpS02Vh1m472p1h2e92GX1Z1",
    "l1n1.1W2d2e2p2r2W3d3c4v4Y5c502FX1Z1l1n1.1W2d2e2p2W3d3c4v4Y5c501BX1Z1l1n1.1d2e2p2W3v4Y500",
    "CX1Z1l1n1.1d2e2p2W3c4v4Y500BX1Z1l1n1.1d2e2p2W3v4Y5t503BX1c5102X1w4w103Z2h2a3W502H_1kxK12",
    "4g3o5024_4A024_4d215Ep1q1v1X2w846Ep1q1v1X2j5A02v1X2j112v1X2WB13TUl2002Tl24i13Tk2l2382Tl2",
    "WDR24Rs.102t2u3kW202j1w4102j1w4t112j1w4pa312j1w4102j1w4icd131a1yr5H1p1_s711p1"]

/-- The runs with their lists of scripts: the gap before a run, its length less one, how many
scripts, and these. -/
def extensionRuns : Nat → Nat → List Nat → List (Run (List Script))
  | 0, _, _ => []
  | fuel + 1, start, gap :: more :: count :: rest =>
    ⟨start + gap, start + gap + more, (rest.take count).map Script.mk⟩ ::
      extensionRuns fuel (start + gap + more + 1) (rest.drop count)
  | _, _, _ => []

/-- The table of those runs. -/
def extensionTable : RunTable (List Script) :=
  let numbers := codedNumbers codedExtensions
  ⟨(extensionRuns numbers.length 0 numbers).toArray⟩

/-- **The scripts a character is used with.** -/
def extensions (c : Char) : List Script :=
  match extensionTable.find? c.toNat with
  | some scripts => scripts
  | none => (of c).toList

end Script

end ChildWatch.Unicode
