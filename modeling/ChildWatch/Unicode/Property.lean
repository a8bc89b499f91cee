import ChildWatch.Unicode.Runs

/-! # Yes-or-no properties of characters

The properties that a character has or has not, each as the spans of characters that have it.

* `Property.of` — the spans of each property.
* `Property.named` — the properties with their names. -/

namespace ChildWatch.Unicode

/-- The properties. -/
inductive Property where
  | asciiHexDigit
  | alphabetic
  | bidiControl
  | bidiMirrored
  | caseIgnorable
  | cased
  | changesWhenCasefolded
  | changesWhenCasemapped
  | changesWhenLowercased
  | changesWhenNfkcCasefolded
  | changesWhenTitlecased
  | changesWhenUppercased
  | dash
  | defaultIgnorableCodePoint
  | deprecated
  | diacritic
  | emoji
  | emojiComponent
  | emojiModifier
  | emojiModifierBase
  | emojiPresentation
  | extendedPictographic
  | extender
  | graphemeBase
  | graphemeExtend
  | graphemeLink
  | hexDigit
  | hyphen
  | idsBinaryOperator
  | idsTrinaryOperator
  | idContinue
  | idStart
  | ideographic
  | joinControl
  | logicalOrderException
  | lowercase
  | math
  | noncharacterCodePoint
  | otherAlphabetic
  | otherGraphemeExtend
  | otherIdContinue
  | otherIdStart
  | otherLowercase
  | otherMath
  | otherUppercase
  | patternSyntax
  | patternWhiteSpace
  | prependedConcatenationMark
  | quotationMark
  | radical
  | regionalIndicator
  | sentenceTerminal
  | softDotted
  | terminalPunctuation
  | unifiedIdeograph
  | uppercase
  | variationSelector
  | whiteSpace
  | xidContinue
  | xidStart
deriving DecidableEq, Repr

namespace Property

/-- The spans of characters with a property, as coded numbers. -/
def coded : Property → String
  | .asciiHexDigit =>
    "m1975Q5"
  | .alphabetic =>
    String.join [
      "X2P6Pl10A0405M1U1fE4BE47010s20TH1123106012101J1o21g48b51b1206e1d1D101111108Q43TA5t116Eb3",
      "174742A220Gl1Da3OW191405N2IJO7A5N16708f1AB366h21F124EDI17212L16103337212110804114C1A0421",
      "5412L16111111444121407310H5B218121L16111438121130F3L34217212L161114372121914114D0G115321",
      "331101131323B4432123060e1C121M1F37121281121123S317121M1914371212815213D2CC121e1271212105",
      "374M5121H3N181026851017I1Dv15660p1110141N101I12241060E3W10.171Z14I4F1Z1Z2s11024G.1A32b11",
      "0502g11iA132610132e1132W1132610132E1u1132Y2b1FGr2253hJ2G1P5g23A7JBKCJCC1211Cp12IE040Z2u2",
      "7g15b2AU1B48NT24Bh14Ps1R4_12Jo10N1B2n1p11E17p1f123Ah11AEs1M2AZ12A5g122f131511305.5JX1Br8",
      "252b125271010101U2q11610321633254C5216q30D0GCb3040291034601010131A235440He1jPp1su1a76331",
      "Cb110502t170GM96161616161616161Vl10rE2P874244r2621v2135g11z2HVm1FWG.j6W2iqLZ2j12i83FA1Kk",
      "1573m3d182c32n2KK1W1Op1CZ210i153012AW15Y1DS3o11BF0GFA41s19DIM3a21010O22F23B5252596161g11",
      "D6w3LZzACM4m1ae8jB2f3c16C45B1C141011111h3X1gBI.12r1e1Bq341c4a1P6PBu235252522Z1B1P1I111E2",
      "DY1w3b2q1h8S3m1l1VDT5g15T2Z14714g1z4IZ14Z14d18p1CA1E16111A1E16113p1Cs99LA7O51f118b25201h",
      "111302MAM9UX2I11ALAP6Pc1t161W231157121Sg1S3SZ171RRr1ALAIDHk3e2t1o1Do1Dd1Y1R305Mw7f11131G",
      "5o123SA08Lg1Hk1KRM9b2h14Au190DONo1H38Y1309.11391A010Z1H1X12063_1610131E197u1N317212L1611",
      "14372121306056S910201b119102013113010i1X21213K2UX22110u5r126P5Y1_11030x1r120d2Q2DL6v5u1d",
      "3.1V72027111T112123z272j1251011Ro129Hd250Ie2d37u2W1V81i11610n1T2L1Df26111h13011121021O51",
      "11a1111310Nh1a8M9G1e132l30l2vSc3k3HZ6io2W3FlX1H5Pwy35cIvr6k1ns1uH7UHk2HTIl1G3VK5ImDi1p6.",
      "1W1O2Oi1g24u17GW2110C69rc7f1VX3o3zl8316111Y9F0T220E38hCae2g35C387940Xx5q21c2112021231B10",
      "161W21327161R131410361pA2O1O1U1O1U1O1U1O1U1O17qv1U65r661G2611145z1X10m3i1A6G0XATIh1aFRa7",
      "T20l6U1L81W7613111E1a6x1Z23030qb131Q1110201913101060401010121110201010101011102316131310",
      "191G52141GqJP6P6Psp3.sf1W1ze42jq52mf7FjJYj2zGYl1gw45ff8"]
  | .bidiControl =>
    "ym10nl61Q4t13"
  | .bidiMirrored =>
    String.join [
      "e11I010S010T010j10F0_p33zw11yi21A1s11E1n50W633530313313101048501H539110171V2350912I51942",
      "14N2F83K171zX1Dg2023111253523DpCL251D807530441124401221A521CI13201020135162O1B14311214g1",
      "271d150103452403410W80ZG33111E129h17hD927znp1551Y51I010S010T0101111txr10v10v10v10v10"]
  | .caseIgnorable =>
    String.join [
      "d1060B0Z1010d2040104021tF.541409110x76l6050n1i110111110i10B5AA10Z10AKG0b371913X1010UQx2A",
      "w1A4020ONh12i107158f1v1t1010474036A1D0F0w104380K1Q021v1041412230U130B1v10441140K1M510w10",
      "20138071B1U0z10C0o1030t1012521371B1T0w10206051K1S1v114380K1T0e207210w2026B8Y30289016f21R",
      "01010t1D14115A1Z190c33151121P142G3D02160F0_20WJ2oT2T1U1U1W2116802A3050j14p10X21Y10s32419",
      "062x6120w10161010276920d108j12BK3m10141050e18C1W132112u10113012w1721W25o221C16406031o1_1",
      "D0Y1a3zD012B2D2D2D1C481A02024n141910D0GCp1W1hy21n32z30F0W3Vl10rE0a133450z25z22suR0Yd15k8",
      "0Y331910S3m21EX1k20N2c3331803040P150t41QHD0c17PAk12m102321H0L1Y252121C080Z10B0p101221511",
      "0R0E15110a3492v302040mvJ0p4GzHF30CFY1020f507060B0Z1010l10j11Z20L2XG0Y70r44bW151f118cI211",
      "53e1240b51zH3c10Q410x91O0q15c2An13x30s1Ef1021A2n13212040A0o12a1417_10C1q18A320.222011602",
      "0z4037L1v1130b1634c25D01010E1r272210N0q25104111k736111R1r272011g30102510b30102314Z8811W8",
      "11040m432140W19e1523809522k1C11c601210f661510o2L261111w3530111610e213010X20v81B1q145010N",
      "0rc5G6EecBB32Wk24x1693yF2e11YF0.1GW2111D1y.F31611_a3113yo4j12MWH29F26U3q42xz1s14n180E0M4",
      "1Emg161G2611145z1X10W5DmB0z13xF4_71p7020715090mE6j37lr24XWZO0U.2W4l7"]
  | .cased =>
    String.join [
      "X2P6Pl10A0405M1U1Y6134l62Y171U4W30g132123106012101J1o21g48b51b19e1tu2b110502g113WLr225Ya",
      "2A5g122W2.5W2r8252b125271010101U2q11610321633254C5216q30D0GCb304029103460101013154023544",
      "0HV31nPp1su1a76331Cb11050oeUj1ITa4b3331i2K512rPg11D6l2WwJ6C4fW1P6Pbb1l2W3Z14Z1q3A1E16111",
      "A1E1611ZE0221f118bc1o1Do1z2LALwu2.1WhL.1W1O2OifPq21c2112021231B10161W21327161R131410361p",
      "A2O1O1U1O1U1O1U1O1U1O17qv191J65b8z1oa2Z2i.1P6P6P"]
  | .changesWhenCasefolded =>
    String.join [
      "X2Pw20AM17W10101010101010101010101010101010101010101010101010101010201010101010101011101",
      "0101010101010101010101010101010101010101011101010111011122311123111101011102011121011307",
      "1111110101010101010102010101010101010102110121010101010101010101010101010101010101010101",
      "0101010101010107111201310101010s70g10103080601210111G18M0C231101010101010101010101010112",
      "110112o1m1010101010101010101010101010101010901010101010101010101010101010101010101010101",
      "0101010101110101010101020101010101010101010101010101010101010101010101010101010101010101",
      "01010101010101010101010101010102b1m10uu2b11050gP5Ya296g122WA0101010101010101010101010101",
      "0101010101010101010101010101010101010101010101010101010101010101010101010101010101010101",
      "0101010101010101010101010101010105120101010101010101010101010101010101010101010101010101",
      "0101010101010101010101010101010101010101010109785A78785B010101087Gl122255225B3C45225f903",
      "160j1FJ0oPPmv1l1m10122010101310208210101010101010101010101010101010101010101010101010101",
      "010101010101010101010101010101010101010101010801040jgU0101010101010101010101010101010101",
      "01010101010J010101010101010101010101010d401010101010103010101010101010101010101010101010",
      "1010101010101010101010101010A01011101010104010201030101010101010101010141410101010101010",
      "1310111010101010101010O0wRl2WwJ6C4fW1Pbc1d1e4Z1y4A1E1611gt1o1z4Lwv2VWiLVW2OdoUX1"]
  | .changesWhenCasemapped =>
    String.join [
      "X2P6Pw10AM1U1.11p21R2D21104y21H6Q1110113113142011207020113550A1c50g132132106012101J1k13W",
      "1141a48b51b1Ac1uu2b110502g122WLr225Ya2A5g122v5030G0n3x4201r3252b125271010101U2q116103216",
      "33254C5216f903160R0HV31nPp1su1m311117b37331Cb11050oeUj1IRc4D2z19E32241O1i1O1yQ0Sl2WwJ6C4",
      "fW1P6Pbb1l2W3Z14Z1q3A1E16111A1E1611Zs1o1Do1z2LALwu2.1WhL.1W1O2OinUZ2"]
  | .changesWhenLowercased =>
    String.join [
      "X2Pb3M16X1010101010101010101010101010101010101010101010101010101020101010101010102010101",
      "0101010101010101010101010101010101010101110103110111223111231111010111020111210113071111",
      "1101010101010101020101010101010101021101210101010101010101010101010101010101010101010101",
      "010101010107111201310101010X90103080601210111G18Z108010101010101010101010105020112o1m101",
      "0101010101010101010101010101010901010101010101010101010101010101010101010101010101010111",
      "0101010101020101010101010101010101010101010101010101010101010101010101010101010101010101",
      "01010101010101010102b1fw2b11050oMr2pa206g122WA010101010101010101010101010101010101010101",
      "0101010101010101010101010101010101010101010101010101010101010101010101010101010101010101",
      "0101010101010101010901010101010101010101010101010101010101010101010101010101010101010101",
      "010101010101010101010101010109785A78785B010101087O7878784B4B3C4B4f903160j1FJ0oPPmv1l1m10",
      "1220101013102082101010101010101010101010101010101010101010101010101010101010101010101010",
      "10101010101010101010101010801040jgU010101010101010101010101010101010101010101010J0101010",
      "10101010101010101010d4010101010101030101010101010101010101010101010101010101010101010101",
      "010101010A010111010101040102010301010101010101010101414101010101010101310111010101010101",
      "010O0hvLPbc1d1e4Z1y4A1E1611gt1o1z4Lwv2VWiLVW2OdoUX1"]
  | .changesWhenNfkcCasefolded =>
    String.join [
      "X2Pb20701020102322121M17W101010101010101010101010101010101010101010101010101210201010121",
      "0101011101010101010101010101010101010101010101010101110101011101112231112311110101110201",
      "1121011307910101010101010201010101010101010231210101010101010101010101010101010101010101",
      "010101010101010107111201310101010X38V524x211290W1010101030314610111G18M0C710101010101010",
      "1010101010121110112o1m101010101010101010101010101010101090101010101010101010101010101010",
      "1010101010101010101010111010101010102010101010101010101010101010101010101010101010101010",
      "101010101010101010101010101010101010101010102b1m10q40u23.M7y3110p2020Y1220z71rM0.30e11k1",
      "0s1090404040C0901470H090404040C0c7b11050k10Y31tK5sT1r24mZ196g122i321A1H1RD0Y1a1W20101010",
      "1010101010101010101010101010101010101010101010101010101010101010101010101010101010101010",
      "1010101010101010101010101010101010101010101010101010105120101010101010101010101010101010",
      "1010101010101010101010101010101010101010101010101010101010101010109785A78785B01010108710",
      "1010101010102l1222D28304312304722271F1050C2353111401082D07I2Q1CB0t23121A112422101010131A",
      "15446l13050Y5111u71r9g4Xf10d32b30Z9l1m10122010101310206410101010101010101010101010101010",
      "101010101010101010101010101010101010101010101010101010101010101010801040y30l90p20Cr6g10r",
      "1012W3120.20n1z23DW3U1d18k11.BWoS010101010101010101010101010101010101010101010J010101010",
      "10101010101010101011a4010101010101030101010101010101010101010101010101010101010101010101",
      "0101010101080101110101010401020103010101010101010101014141010101010101013101110101010101",
      "01010K421YR3906l2WgJj82010291010213Z22f3c16C4501N141011111h3X1gBI.12r1e1C3PMK2B1I1342101",
      "c4201z535252522361618dW1d1e4Z1y4A1E1611hF41f118bc1o1z4Lwv2VWiLVW2OdlJ3oX4Z1aZ16E7W25.Hq2",
      "1c2112021231B10161W21327161R131410361pA2Z92n1mX2z1oa2X1_c131Q111020191310106040101012111",
      "0201010101011102316131310191G52141GaIA5U1VQ2Z10l32Dh14871_i29cW.1zGYlXM..3"]
  | .changesWhenTitlecased =>
    String.join [
      "X3Pw10f1N1710101010101010101010101010101010101010101010101010101010201010101010101110101",
      "0101010101010101010101010101010101010101020101220102030502032202010102040203010203010401",
      "1111010101010101010111010101010101010121010301010101010101010101010101010101010101030101",
      "010101010101080211040101010151110113113142011207020113550A1c50h10103032I0RY1113210101010",
      "1010101010101014102020q1l110101010101010101010101010101010109010101010101010101010101010",
      "1010101010101010101010101020101010101011101010101010101010101010101010101010101010101010",
      "101010101010101010101010101010101010101010101010n1c1mp35Ya2810k7030G0o301010101010101010",
      "1010101010101010101010101010101010101010101010101010101010101010101010101010101010101010",
      "1010101010101010101010101010101010101010101650101010101010101010101010101010101010101010",
      "101010101010101010101010101010101010101010101010101885A78785A7878D2787878411603211832187",
      "A211sA0X1F40hQPcw1l110311010106020A01010101010101010101010101010101010101010101010101010",
      "1010101010101010101010101010101010101010101010801040Cb11050peU01010101010101010101010101",
      "0101010101010101010J010101010101010101010101010d4010101010101030101010101010101010101010",
      "101010101010101010101010101010101010A010201010101040401120101010101010101010B01010101010",
      "101040102010101010101010Q0yQ0Sl2WwJ6C4fX1Pjc1d1e4Z1x4A1E1611Zu1o1z3Lwv2VWiLVx1OkoUX1"]
  | .changesWhenUppercased =>
    String.join [
      "X3Pw10f1N1710101010101010101010101010101010101010101010101010101010201010101010101110101",
      "0101010101010101010101010101010101010101020101220102030502032202010102040203010203010511",
      "1111010101010101011101010101010101011111030101010101010101010101010101010101010103010101",
      "0101010101080211040101010151110113113142011207020113550A1c50h10103032I0RY111321010101010",
      "10101010101014102020q1l11010101010101010101010101010101010901010101010101010101010101010",
      "1010101010101010101010102010101010101110101010101010101010101010101010101010101010101010",
      "1010101010101010101010101010101010101010101010n1c1ew2g122uN5Ya2810k7030G0o30101010101010",
      "1010101010101010101010101010101010101010101010101010101010101010101010101010101010101010",
      "1010101010101010101010101010101010101010101010165010101010101010101010101010101010101010",
      "1010101010101010101010101010101010101010101010101010101885A78785A7878D2q1114010321140332",
      "187A21140nA0X1F40hQPcw1l110311010106020A010101010101010101010101010101010101010101010101",
      "010101010101010101010101010101010101010101010101010801040Cb11050peU010101010101010101010",
      "101010101010101010101010J010101010101010101010101010d40101010101010301010101010101010101",
      "01010101010101010101010101010101010101010A010201010101040401120101010101010101010B010101",
      "01010101040102010101010101010Q0yQ0Sl2WwJ6C4fX1Pjc1d1e4Z1x4A1E1611Zu1o1z3Lwv2VWiLVx1OkoUX",
      "1"]
  | .dash =>
    "j10yg10p10Xo30bW10fW25z10d10F0cC0aW3020V140S0_D0J0l30mip11b10A0f50Wp30_90"
  | .defaultIgnorableCodePoint =>
    "j50XL0iM0Yw21po11r24x.14Q4n1Fqd40xap1Fl70W50l28dbl13lc57bqhO..3"
  | .deprecated =>
    "fA0ff10Ze2010fX21bc25vL1sctR0"
  | .diacritic =>
    String.join [
      "_2010d20604021tF_41755H14091z74n60t1i110111110Z4741c414132Z2Qx2Aw1AY11_37f19GRz10G033S0g",
      "20G0k30G0k30G0l12y10G070t30k30G0k30G0j31G0y30l30C510h30D4h21R0101041Y2211_10m3011e1144P6",
      "10A1XM2qT1U0q4A90xA2a90K720m1E2A3E2Be20F0c18s11w10B1Y21W25o2O406022o1_1m1Z15Bb1AzD012B2D",
      "2D2D1md32z90wF5f33.20ohT0C110S1o21EX1c32c3061C0b10t40RHv13a10.20C0a10r42X23p10a3492W41mv",
      "J0XOFk8010l10j11Z20yN0.a151f118zJ240b51xH5c10Q4iC022c2An13W60f10e21u31_10i2092e31o51m21G",
      "0O634v2211D1.2030x31x71_30s31p30j81Y8140y40p20I0n20bD0Y8011n20X20dB1N0id5EvcB0Wk24x16qH1",
      "YHGm21_.F31611Xu7j12MWH2358726U3Yq3z1Y66tB0z13_N1WN6j3212"]
  | .emoji =>
    String.join [
      "Z106059l3040jy70C0u60M0w25F1lB1C0c50PA42d60d71A090w1314902021204020112030318250105BB1201",
      "110I021I5101131502141B15120511011K155132040202510201010603060A1F02040104210B1m1290E0E0qB",
      "1lE2J1p1040wc10C0vI010ghl30g60W51C1E029h2P11N0K028L1k5X12l321122o2221c81_1B51N7127C02320",
      "41D120819052C28220104060306r2m1b257233930113029Z7B40x8k1191u5m3C3A3u1104F2B49"]
  | .emojiComponent =>
    "Z106059p_70r60hft10s_y1PxF4mj13ipXO.2"
  | .emojiModifier =>
    "x.y34"
  | .emojiModifierBase =>
    String.join [
      "zm90x60G3tZp30y122022r312ALI3042127010O0f6140L041k5234p20G290B0.H02087609922u10z111110H2",
      "1Cb72g18"]
  | .emojiPresentation =>
    String.join [
      "wu81j633020fG1L1o1Bh10J0D081H1518050L0711040207041S0Z10104210z12O0E0xQ1p1040kbn30g60_502",
      "9h2P10O0K02412L1k5W1C81b21LCg144CG303c2101w52_1D31NI0Q1D0s2q2m1b260322333B178Z7B40x8k119",
      "1u5m3C3A3u1104F2B49"]
  | .extendedPictographic =>
    String.join [
      "f5040jy70C0u60M0w25F1lB1C0c50PA42d60d71A090w1314902021204020112030318250105BB1201110I021",
      "I5101131502141B15120511011K155132040202510201010603060A1F02040104210B1m1290E0E0qB1lE2J1p",
      "1040wc10C0vI010ghl30d13a3BF1F0E1b19m31C1E029Jt1REA0K028139M6x52l321122o222135z71_1B51N71",
      "27C0232041D120819052C28220104060306r2m1b2572G30152Cw6b1C3u17A5e17U1C32D9c1Ck1191u5u27En4",
      "W8zV"]
  | .extender =>
    String.join [
      "t50uG1kR0vD0sJ0f40v20mN0.30Zg20u10ZJ0kC0a20fy40h14d31z22suR0sl10YU0M0f40i30L1xZL0mW21hk1",
      "0R040dc10b90q31oF2lc10WQ0ehJ1ya1110E1egS1nb10qQ2"]
  | .graphemeBase =>
    String.join [
      "W1_2X1C1nIm372546101J1.67b51b12n122k101020209Q45H9B01j1LF1a38061204V201TTu2B0Eg1963N4090",
      "307E1O501A5VGf1v1s110138312792S1117212L1610333011612110D1124N5015412L1611111142O31079221",
      "0C018121L16111433801130F14B708117212L16111430206121F1124HB015321331101131323B5011321230L",
      "K6217121M1F3033J2112149791A121M1914312011N2114912EA121e1201152121142194P211H3N1810269166",
      "7922Cl111B78Cb1110141N1019119024109923W1N2Q10101D1Z1I05024n17151Cb1i14060212O233F4C11251",
      "E1d110502uB132610132e1132W1132610132E1u1132Y25S3P6r2252yK3u27HDI319HEC12Fp1207711B839696",
      "A596u2742X1105b2AU43224115703f124Bh14P6A3u1213t110901185D9696Ds2l1A3371S9B2V416t1102210D",
      "l1815E3z15g12AB0D0731512205.5W2r8252b125271010101U2q11E1D251I22181A5N7m1G12Q1C3X1_1h44vK",
      "MALpu12uB315i110502t171FM9616161616161616X1z2Y1P1u2Cr6Qv16F1r24a35g11z21r29l11ipS3s19xAK",
      "k140AV2l2258y6KG12131O24496t18Z2ABOC1b18OB0CT6l11141211C1A461O1e16121B21710292V1o1103124",
      "2010OG27B5252596161x14q31113396ZzACM4m1ae8jB2f3c16C4501N141011111fKW1FG9MY11I13441c44y42",
      "U352525223616D12B1P1I111E2DY1w3524i13t21C30l1i1Z4S3m1GQ4Z19T5b1AT1a14Dg1z4296Z14Z14d18p1",
      "BB1E16111A1E16113p1Cs99LA7O51f118b25201h111302M1d288m1I115W13Q5Qc1t14J2k1F3121SA8787.1W1",
      "a16B9r13S2Q5P73C6m2e2t1o1Do17f1C96b18N81m6U1f13021G588d1d18LB8MH43c1RKM901r1F64T1120Cm14",
      "12113EO799Z1509H8Y112Bp19017411F1JBH1R314511.1610131E1A6k112D98117212L161114301013212130",
      "C6S910201b11011F011301211d1t181301K1012Ul111601110202389c5k11163202Qa1o1811023B96CJg1101",
      "181696JSQ3011409Mv5k19020a3o2C72027111N1411631299c272f18313R0Ad1614790613j1D028De279t203",
      "010u2X1E9681b1E015AS3VP07020h26111b1L09965111a1411010796h149s7I239E1Z1813Ms20Fn1DwSc3k31",
      "4BZ6io2Y3DlX1H5Pwy35cIvr6TC239cs1uH7U194m2196T70Al17EA9161K5ImDv1c6w25O2Oi1g25t1BCW23E49",
      "rc7f1VX3o3zl8316111Y9F0T220E38hCae2g35C38792020Wx3y73pD6MFG.2p3y1r7Ac12x152M17T4y1LX230w",
      "3JCJCs29Od4q21c2112021231B10161W21327161R131410361pA2Z92nHt13o171D16qZ1U65b8z1o4i1A62941",
      "WATIh14950mER49s6T2A40W6U1211162491W7613111E1a628m1Z2704941nOZ2i2y1Y631Q1110201913101060",
      "401010121110201010101011102316131310191G52141Gq11k8h14Z3CE2E1E1a1Aj5u1SDh14871E5w4uU3G3C",
      "3v66B40FB4t1896d18T2B41E8d1tA8D2C3A3u1104F2B497o41c3bW1.sf1W1ze42jq52mf7FjJYj2zGYl1gw45f",
      "f8"]
  | .graphemeExtend =>
    String.join [
      "WOl3p86d8i110111110e2Am1KG0b36252113Z10UQx2Aw1890O3181214h12x18g1N1Vt1010474036A1T0w1010",
      "238090A1Q021v1041412230U130B1v10441140K1M510w1011138072A1U0x1010C090e1030t1012521371B1T0",
      "w102110321371B1S1v1110238090A1T0e2040221080n2026C7Y3028B6f21R01010t1D14115A1Z190c3315112",
      "1P142G3D02160F0.L2oT3S2T1U1W2116802A90j1210r31Y10s32419062x6120w10161010276920m1j12BK3m1",
      "942c18C1W1325u10113014u1721u421C16406031c6.1iG0Z6W1_.22j40W3VgH5f31qkT319W11m21m803040P1",
      "50t41QHD0c17PA10i12m10232120a10Z252121C080l10p1012215110g1180k702040mvJ0XNFGFkB1zI0Y70r4",
      "4cq121153e1240b51zH3X24z91j25c2An13x30s1Ef1021A2n132170z12a1417_10C1q18108320.22236020z4",
      "037L1v111010C090E634Z20251020124210E1r272210N0n202510201111h70236111R1r272011g301027b301",
      "02314Z8811r70A340m432140W19e1523809522k1C11c601210f661510o2L261111w3530111610e213010xA1B",
      "1q1452N0bd506EecBB32Wk24x16uW10.13n20B1hbJ1Xp4j12M_G4358726U3q42xz1s14n180E0M41Emg161G26",
      "1114a30W56tB0z13yF3_71p70207150wE6j36rsbO.2W4l7"]
  | .graphemeLink =>
    String.join [
      "jg20.30.30.30.30.30.30.30j31G0y30l30.30f60q51vs11U0z40jK0Z70b31c21hi40cqU0b10t40k40i30r9",
      "0s70noN0cm10f10E0v10v31h40q30q50Y30W42n30.30y70.30s30q30j80Z81X50p20I0n20bD0a81n20fD1ilG",
      "0"]
  | .hexDigit =>
    "m1975Q5fr.1975Q5"
  | .hyphen =>
    "j10.30yc10xp40fW21bm30ZN0dhp10f50t20"
  | .idsBinaryOperator =>
    "m.B129nF0"
  | .idsTrinaryOperator =>
    "o.B1"
  | .idContinue =>
    String.join [
      "m197P401Pl10A010205M1U1fE4BE47010Hq311231064101J1o21g4142b51b1206e18i1101111108Q43TA5f24",
      "b317291I20Gw12a3Er140202j1IR4A5N167g21W4291I17212L1610332821238041142BA0102215412L161111",
      "11201441223073107FB218121L16111429121220F329961217212L1611142821227241142910G11532133110",
      "1131323B4432132060E9GC121M1F2812137112112329G317121M19142812137152132912CC121o1121453742",
      "9A5121H3N181026304510176921Dv15E19d1110141N101M2410161923W10N169B01010491Z14J1H1Z190v1f2",
      "6j22b110502g11iA132610132e1132W1132610132E1u1132Y22298EFGr2253hJ2G1P5g23A7L9LBJCC1211Cp2",
      "304129X121A6u27g15b2AU1B4BAd124Bh14P6Ab1R4_11S2A69D08D1U2BKi239H8Cp3Ct1893m12A5g122G21c1",
      "5rG252b125271010101U2q11610321633254C5216F1n11J0S0D0GCp1C403BH0402910256010101F235440He1",
      "tp2a768Cb110502t170FN96161616161616161VbG2PE14244r2261_25g11z2HVm1FWG.j6W2iqLZ2j12i83RKl",
      "1491o3b182c32n2Ks140Jp1Cb2A96N301m12Z1CS3W2EA6U1s19D296M3e2O22F24A5252596161g11D6w311296",
      "ZzACM4m1ae8jB2f3c16C45B1C141011111h3X1gBI.12r1e1B4FGF31O2W141c4J97P401PAv235252522Z1B1P1",
      "I111E2DY1w3b2q1e40Y4S3m1F0VVDT5g15T2Z14714g1z4296Z14Z14d18p1CA1E16111A1E16113p1Cs99LA7O5",
      "1f118b25201h111302MAM9UX2I11ALAP6Pc1t161W231157121S2240W1S3SZ171TPr1ALAIDHk3e2t1o1Do1Dd1",
      "896b1341Mw7f11131G5o1Y1A08W1VLg1KRM9c2VF9x170DO796q119438Z1209a2431C10Z1H1a163_1610131E1",
      "97w1596317212L1611141921222060562634B910201b11910201317D1Tg25943Ub21089c5r128N5Y1W230B9c",
      "1u1796JSQ2E4966v5w1b3f2L72027111T1128C9c272j12711R_1808f230Ie2d37u2W1F9681i118F9OT2L1Df2",
      "6111h13011188965111a11115796h149s7M9G1e134DAr20l2vSc3k3HZ6io2W3FlX1GLAwy35cIvr6v1cs1uH7U",
      "196k2196T24Bs193C99K5ImDi139c6.1W1O2Oi1g24u17GW2111B69rc7f1VX3o3zl8316111Y9F0T220E38hCae",
      "2g35C387931nY49cGj12M_G4358726U3q42xDq21c2112021231B10161W21327161R131410361pA2O1O1U1O1U",
      "1O1U1O1U1O172n1WGs14n180E0M41EmY1U65r661G2611145z1X10m3i13D2940XAUHv1sEf1s6g1b6U1L81W761",
      "3111E1a6B6f1h249cb131Q1110201913101060401010121110201010101011102316131310191G52141Gqf39",
      "cW1.sf1W1ze42jq52mf7FjJYj2zGYl1gw45ff8capLl7"]
  | .idStart =>
    String.join [
      "X2P6Pl10A0405M1U1fE4BE47010X441123106012101J1o21g48b51b1206e1d2Q43j1g1Z111Y310F171A220G0",
      "1TTu2B0OW191405L409030NO7A5N16Gf1w1r130I079FF47212L16103330G0D112E1A085412L16111111V310J",
      "2G8121L16111430I0F1N0B7212L16111430U112F0H015321331101131323BM0q17121M1F30Q21121U047121M",
      "191430U211F1H8121e120G05282O55H3N181026w1l111C6w1110141N101911902410L3W10.171Z1R4p3g1K0G",
      "5433031724CC0Hb110502g11iA132610132e1132W1132610132E1u1132Y2b1FGr2253hJ2G1P5g23A7HDIEHEC",
      "12Fp1Z1040Z2u27e1105b2AUn1T24Bh14Ps1M9q1o20z2k1H7s1TD1Ah1QZ1f12AZ12A5g122f131511305.5W2r",
      "8252b125271010101U2q11610321633254C5216q30D0GCb30402910256010101F235440He1tp2a76331Cb110",
      "502t170GM9616161616161616cH2P874244r2441v2135g11z2HVm1FWG.j6W2iqLZ2j12i83FA1Kk1GU2l2d182",
      "c32n2KG12131MTp1En1_153011BRAMPS7k1S0G419A41e1N217KM303n11031242010O22A72C5252596161g11D",
      "6o3TZzACM4m1ae8jB2f3c16C450191C141011111h3X1gBI.12r1e1Bq341c4a1P6PBu235252522Z1B1P1I111E",
      "2DY1w3b2q1h8S3m1l1VDT5b1AT2Z14714g1z4IZ14Z14d18p1CA1E16111A1E16113p1Cs99LA7O51f118b25201",
      "h111302MAM9UX2I11ALAP6Pc1t161W20F3121Sg1S3SZ171RRr1ALAIDHk3e2t1o1Do1DZ1c1R9Mw7f161G5u1SA",
      "08Lg1Hk1KRMCq1v1120Di1W1OQZ1T0208Y130Cl1E3L010Z1H1OJ1.1610131E197k1c17212L16111430I0C4U9",
      "10201b110P010i1q1I3K2Ul1K110u5k1f13a1l1K0x1g1D0d2Qb16v5h1q3.1V72027111NF010_272c1G010S0A",
      "d170L0Bj1J0Ie2d6W1V81a1H0n1Tm36111b1L0P5111VE0Nh1a8IF01C1X1y30l2vSc3k3HZ6io2W3FlX1H5Pwy3",
      "5cIvr6TYt1uH7UHk2HTIl1G3VK5ImDi1p6.1W1O2Oi1g250Y2CW2110E49rc7f1VX3o3zl8316111Y9F0T220E38",
      "hCae2g35C3879cx5q21c2112021231B10161W21327161R131410361pA2O1O1U1O1U1O1U1O1U1O17qv1U65b8z",
      "1o4i1A6G0XATIh1aFRa7T20l6U1211162491W7613111E1a6x1Z270qb131Q1110201913101060401010121110",
      "201010101011102316131310191G52141Gag4.sf1W1ze42jq52mf7FjJYj2zGYl1gw45ff8"]
  | .ideographic =>
    "cWC1P8E2bU.j6W2.lKWeMjB2f3geT0D49rc7f1VX3o3zx8hCaeJ.sf1W1ze42jq52mf7FjJYj2zGYl1gw45ff8"
  | .joinControl =>
    "iW81"
  | .logicalOrderException =>
    "Wo34x34mt2220wda112011"
  | .lowercase =>
    String.join [
      "X3Pl10A040a1N171010101010101010101010101010101010101010101010101010101110101010101010111",
      "0101010101010101010101010101010101010101010102010122010203140203220201010201110203010212",
      "2602020101010101010101110101010101010101120103010101010101010101010101010101010101010101",
      "01010101010101016202110401010101a22Y171U4W30h10103023I0RY1113210101010101010101010101410",
      "2021p1l110101010101010101010101010101010109010101010101010101010101010101010101010101010",
      "1010101020101010101011101010101010101010101010101010101010101010101010101010101010101010",
      "101010101010101010101010101010m1e1dw2g113uN5Ya2810r3.5X201010101010101010101010101010101",
      "0101010101010101010101010101010101010101010101010101010101010101010101010101010101010101",
      "0101010101010101010101010101810101010101010101010101010101010101010101010101010101010101",
      "01010101010101010101010101010101010101885A78785A7878D2787878411603211832187A211v30D0GCj3",
      "03130R04040218340X1F40hQPcw1l11031101010401117301010101010101010101010101010101010101010",
      "1010101010101010101010101010101010101010101010101010101011701040Cb11050peU01010101010101",
      "0101010101010101010101010101010J010101010101010101010101012b4010101010101210101010101010",
      "1010101010101010101010101010101010101010101010191010201010101040102012101010101010101010",
      "1050501010101010101040102010101010101010L31012rPg11D6l2WwJ6C4fX1Pjc1d1e4Z1x4A1E1611ZE022",
      "1f118be1o1z3Lwv2VWiLVx1OcgPPQ61HQPQ310161AQPQPQPQPQPQPQPQPQRSO15QO15QO15QO15QO1510qv191J",
      "65b8z1qb2X1"]
  | .math =>
    String.join [
      "h10G2V0T010j1040b10V0uM220Q122lG2jm60R2B030D0E3L4B4X2C403144I04029102560312112153D10a2N1",
      "511414V1061Eh883K1w20UQ10O0B6zD1C945412134E01025B751v1010T392mA.1W8.Fm1K25y_p10tP510Y50G",
      "2T010T010Z4063Xj31Whm10le1q21c2112021231B10161W21327161R131410361pA2Z92n1Wm531Q111020191",
      "3101060401010121110201010101011102316131310191G52141Gq11_k28"]
  | .noncharacterCodePoint =>
    "mk.1VkG1_..11_..11_..11_..11_..11_..11_..11_..11_..11_..11_..11_..11_..11_..11_..11_..11"
  | .otherAlphabetic =>
    String.join [
      "bQ0TCWID10111110e2Am1C16G0b36432140Z10UFc3Ab31381213g30y1B366Js112E1152A1T2w162121A0A1T2",
      "w14412140U130B2w171211L1M242w16212191A1U0x143212A0e14v16121281B1T2w16121281B1F0C3w161212",
      "A0A1T2h251017I1z1026I0Z302511G0Z5I9A1Z1k3B1023N342122633DB10A3qp11U1U1U1Y2Iy51Y10s3B48_6",
      "4v192Jg21B2n14m1Ey12U821v1Ao1IyCX1Xs1p1sd2VqZU7Y11YB080N4u21o1F10v10c14SBj13m1Bb10Z2DC08",
      "1j12o10122150i1450j77pvJ0tY24cq121153qO3X20XA1j22Z82r1Dj11B2j1890z12a1BI1v12m1CE1y282060",
      "20z49N3w162121A0A1q2810201311d3C12g3Hj7626T1o2E10g3Ad3DX8Ct7511213010k462540S9g1413IAk1D",
      "e67d6716p2L1Dw353011121030Y241113yA39110m1632zkGGWn301s173z21ibJ0Xx861G261114a30po102071",
      "50nI0e.1P6P6P"]
  | .otherGraphemeExtend =>
    String.join [
      "_j20O0cB0O0c30O0e7010411191d30O0t30F0rf20U0WW10501051b30d21uW10XX41ZfU0i30zkL1Wn40q30e80",
      "E090W3090201250W70C0n70c80vJ0C0Zm10kbK1phO165jrhO.2"]
  | .otherIdContinue =>
    "t50lM0X.38ep10nn11jd40fpp10"
  | .otherIdStart =>
    "ba61na20L0ix31"
  | .otherLowercase =>
    "g50F0rF871U4W30q10Xi30lX3_1D0Y1a1nL0D0GCp6FmQPoy11_mU1o60W4331YR390sWN0221f118rZs1z1"
  | .otherMath =>
    String.join [
      "_20nR220Q121WX70R2B0W13O1E1X2C403144I04029103460312112153354h24231111101421414H211016106",
      "1Y93e5110O0H0zD1C854512134E01025O1v1010T391sA1V9pCL.13W11ZZr101040p6010Xcr1q21c211202123",
      "1B10161W21327161R131410361pA2O1O1U1O1U1O1U1O1U1O172n1Wm531Q11102019131010604010101211102",
      "01010101011102316131310191G52141G"]
  | .otherUppercase =>
    "Wh8FcQPWZp3P6P6P"
  | .patternSyntax =>
    "X1EA6Q310Q3Y1610111011404030N0V0uu7N8E2I19n9lMW5rJUhZ1WG.3XC24OF0jep11b81"
  | .patternWhiteSpace =>
    "94I0a30ey71O1"
  | .prependedConcatenationMark =>
    "Wm15t60n10WC1m20w_X20F0"
  | .quotationMark =>
    "Y1040Z40F0yw77P1dm30fE3D2Xnp13z5040w21"
  | .radical =>
    "WqBP1u2Cr6"
  | .regionalIndicator =>
    "cly3P"
  | .sentenceTerminal =>
    String.join [
      "X10C0G0fg10p42q50h12s70z101031b91at11sO041bO0c61z41j1050w91YB3Y51A121T2x51X21aT0N192lb32",
      "o90D0M1jD0ydT0k81Z7030_B1s21.20u41p42m41v70cnK021x1031f50C0G0X20qt21zd14i13z51r33.32X416",
      "0G1u2111i30g91r31rB15Ef31v72bG010x71t21aD1qL1g21fvI1b40X21B0fH1e90cmJ0el70"]
  | .softDotted =>
    String.join [
      "f31a60v80U0q10K0WA0Y3010fe60p10D030a40z40bD0s61ov20bzf31o11o11o11o11o11o11o11o11o11o11o1",
      "1o11ca20n91Q0"]
  | .terminalPunctuation =>
    String.join [
      "X10A010B130_P080XG0v10e20E012q50h1A10h71s1517V0b81qd11i5045t91rO7bO0y32d21z4230d1321w91Y",
      "B3Y51A112T2x54_11aT0N192lb32o90D040A01131iD1xdT1j82Z74_B1s21.20t42p42.30G1v70cnK021v1213",
      "f50A010B130X2020wX10m10ca10d60s91u45a25v23uT4i13z56m33.32X4160G1u24i30g91r32C1cB33Ef31v7",
      "2bG010x71t2141_C2j10bK1g21hf14vlH1b40X22A0fH1d91cmJ0dl73"]
  | .unifiedIdeograph =>
    "WWD.j6W2.lKkmM11011A0101122skX2.sf1W1ze42jq52mf7FjJYj4gw45ff8"
  | .uppercase =>
    String.join [
      "X2Pb3M16X1010101010101010101010101010101010101010101010101010101020101010101010102010101",
      "0101010101010101010101010101010101010101110103110111223111231111010111020111210113070202",
      "0201010101010101020101010101010101020201210101010101010101010101010101010101010101010101",
      "010101010107111201310101010X90103080601210111G18Z10223010101010101010101010105020112o1m1",
      "0101010101010101010101010101010109010101010101010101010101010101010101010101010101010101",
      "1101010101010201010101010101010101010101010101010101010101010101010101010101010101010101",
      "0101010101010101010102b1fw2b11050oMr2pa206g122WA0101010101010101010101010101010101010101",
      "0101010101010101010101010101010101010101010101010101010101010101010101010101010101010101",
      "0101010101010101010109010101010101010101010101010101010101010101010101010101010101010101",
      "01010101010101010101010101010109785A78785B010101087e23C3C3C4B3c8040322220346010101323A15",
      "0QFJ0oPPmv1l1m10122010101310208210101010101010101010101010101010101010101010101010101010",
      "101010101010101010101010101010101010101010801040jgU0101010101010101010101010101010101010",
      "10101010J010101010101010101010101010d401010101010103010101010101010101010101010101010101",
      "0101010101010101010101010A01011101010104010201030101010101010101010141410101010101010131",
      "0111010101010101010O0hvLPbc1d1e4Z1y4A1E1611gt1o1z4Lwv2VWiLVW2OdgPPQPQPQ01120212317QPQ113",
      "2716R113141036RPQPQPQPQPQPUOX1OX1OX1OX1OX10rf4X1kW2P6P6P"]
  | .variationSelector =>
    "hW6210mlv1FmtWQl7"
  | .whiteSpace =>
    "94I0a30Q0.k50.h2AT150l10Wz30"
  | .xidContinue =>
    String.join [
      "m197P401Pl10A010205M1U1fE4BE47010Hq311321064101J1o21g4142b51b1206e18i1101111108Q43TA5f24",
      "b317291I20Gw12a3Er140202j1IR4A5N167g21W4291I17212L1610332821238041142BA0102215412L161111",
      "11201441223073107FB218121L16111429121220F329961217212L1611142821227241142910G11532133110",
      "1131323B4432132060E9GC121M1F2812137112112329G317121M19142812137152132912CC121o1121453742",
      "9A5121H3N181026304510176921Dv15E19d1110141N101M2410161923W10N169B01010491Z14J1H1Z190v1f2",
      "6j22b110502g11iA132610132e1132W1132610132E1u1132Y22298EFGr2253hJ2G1P5g23A7L9LBJCC1211Cp2",
      "304129X121A6u27g15b2AU1B4BAd124Bh14P6Ab1R4_11S2A69D08D1U2BKi239H8Cp3Ct1893m12A5g122G21c1",
      "5rG252b125271010101U2q11610321633254C5216F1n11J0S0D0GCp1C403BH0402910256010101F235440He1",
      "tp2a768Cb110502t170FN96161616161616161VbG2PE14244r221221_25g11z2HVm1FWG.j6W2iqLZ2j12i83R",
      "Kl1491o3b182c32n2Ks140Jp1Cb2A96N301m12Z1CS3W2EA6U1s19D296M3e2O22F24A5252596161g11D6w3112",
      "96ZzACM4m1ae8jB2f3c16C45B1C141011111h3X1g46v6I.12r1e196FGF31O2X1010301010101z3J97P401PAv",
      "235252522Z1B1P1I111E2DY1w3b2q1e40Y4S3m1F0VVDT5g15T2Z14714g1z4296Z14Z14d18p1CA1E16111A1E1",
      "6113p1Cs99LA7O51f118b25201h111302MAM9UX2I11ALAP6Pc1t161W231157121S2240W1S3SZ171TPr1ALAID",
      "Hk3e2t1o1Do1Dd1896b1341Mw7f11131G5o1Y1A08W1VLg1KRM9c2VF9x170DO796q119438Z1209a2431C10Z1H",
      "1a163_1610131E197w1596317212L1611141921222060562634B910201b11910201317D1Tg25943Ub21089c5",
      "r128N5Y1W230B9c1u1796JSQ2E4966v5w1b3f2L72027111T1128C9c272j12711R_1808f230Ie2d37u2W1F968",
      "1i118F9OT2L1Df26111h13011188965111a11115796h149s7M9G1e134DAr20l2vSc3k3HZ6io2W3FlX1GLAwy3",
      "5cIvr6v1cs1uH7U196k2196T24Bs193C99K5ImDi139c6.1W1O2Oi1g24u17GW2111B69rc7f1VX3o3zl8316111",
      "Y9F0T220E38hCae2g35C387931nY49cGj12M_G4358726U3q42xDq21c2112021231B10161W21327161R131410",
      "361pA2O1O1U1O1U1O1U1O1U1O172n1WGs14n180E0M41EmY1U65r661G2611145z1X10m3i13D2940XAUHv1sEf1",
      "s6g1b6U1L81W7613111E1a6B6f1h249cb131Q111020191310106040101012111020101010101110231613131",
      "0191G52141Gqf39cW1.sf1W1ze42jq52mf7FjJYj2zGYl1gw45ff8capLl7"]
  | .xidStart =>
    String.join [
      "X2P6Pl10A0405M1U1fE4BE47010X441132106012101J1o21g48b51b1206e1d2Q43j1g1Z111Y310F171A220G0",
      "1TTu2B0OW191405L409030NO7A5N16Gf1w1r130I079FF47212L16103330G0D112E1A085412L16111111V310J",
      "2G8121L16111430I0F1N0B7212L16111430U112F0H015321331101131323BM0q17121M1F30Q21121U047121M",
      "191430U211F1H8121e120G05282O55H3N181026w1l110D6w1110141N101910A02410L3W10.171Z1R4p3g1K0G",
      "5433031724CC0Hb110502g11iA132610132e1132W1132610132E1u1132Y2b1FGr2253hJ2G1P5g23A7HDIEHEC",
      "12Fp1Z1040Z2u27e1105b2AUn1T24Bh14Ps1M9q1o20z2k1H7s1TD1Ah1QZ1f12AZ12A5g122f131511305.5W2r",
      "8252b125271010101U2q11610321633254C5216q30D0GCb30402910256010101F235440He1tp2a76331Cb110",
      "502t170GM9616161616161616cH2P874244r2621v2135g11z2HVm1FWG.j6W2iqLZ2j12i83FA1Kk1GU2l2d182",
      "c32n2KG12131MTp1En1_153011BRAMPS7k1S0G419A41e1N217KM303n11031242010O22A72C5252596161g11D",
      "6o3TZzACM4m1ae8jB2f3c16C450191C141011111h3X1g46v6I.12r1e19t3010301010101z3a1P6PBt12U3525",
      "2522Z1B1P1I111E2DY1w3b2q1h8S3m1l1VDT5b1AT2Z14714g1z4IZ14Z14d18p1CA1E16111A1E16113p1Cs99L",
      "A7O51f118b25201h111302MAM9UX2I11ALAP6Pc1t161W20F3121Sg1S3SZ171RRr1ALAIDHk3e2t1o1Do1DZ1c1",
      "R9Mw7f161G5u1SA08Lg1Hk1KRMCq1v1120Di1W1OQZ1T0208Y130Cl1E3L010Z1H1OJ1.1610131E197k1c17212",
      "L16111430I0C4U910201b110P010i1q1I3K2Ul1K110u5k1f13a1l1K0x1g1D0d2Qb16v5h1q3.1V72027111NF0",
      "10_272c1G010S0Ad170L0Bj1J0Ie2d6W1V81a1H0n1Tm36111b1L0P5111VE0Nh1a8IF01C1X1y30l2vSc3k3HZ6",
      "io2W3FlX1H5Pwy35cIvr6TYt1uH7UHk2HTIl1G3VK5ImDi1p6.1W1O2Oi1g250Y2CW2110E49rc7f1VX3o3zl831",
      "6111Y9F0T220E38hCae2g35C3879cx5q21c2112021231B10161W21327161R131410361pA2O1O1U1O1U1O1U1O",
      "1U1O17qv1U65b8z1o4i1A6G0XATIh1aFRa7T20l6U1211162491W7613111E1a6x1Z270qb131Q1110201913101",
      "060401010121110201010101011102316131310191G52141Gag4.sf1W1ze42jq52mf7FjJYj2zGYl1gw45ff8"]

/-- The names of each property, in lower case and without underscores. -/
def named : List (List String × Property) :=
  [(["asciihexdigit", "ahex"], .asciiHexDigit),
   (["alphabetic", "alpha"], .alphabetic),
   (["bidicontrol", "bidic"], .bidiControl),
   (["bidimirrored", "bidim"], .bidiMirrored),
   (["caseignorable", "ci"], .caseIgnorable),
   (["cased"], .cased),
   (["changeswhencasefolded", "cwcf"], .changesWhenCasefolded),
   (["changeswhencasemapped", "cwcm"], .changesWhenCasemapped),
   (["changeswhenlowercased", "cwl"], .changesWhenLowercased),
   (["changeswhennfkccasefolded", "cwkcf"], .changesWhenNfkcCasefolded),
   (["changeswhentitlecased", "cwt"], .changesWhenTitlecased),
   (["changeswhenuppercased", "cwu"], .changesWhenUppercased),
   (["dash"], .dash),
   (["defaultignorablecodepoint", "di"], .defaultIgnorableCodePoint),
   (["deprecated", "dep"], .deprecated),
   (["diacritic", "dia"], .diacritic),
   (["emoji"], .emoji),
   (["emojicomponent", "ecomp"], .emojiComponent),
   (["emojimodifier", "emod"], .emojiModifier),
   (["emojimodifierbase", "ebase"], .emojiModifierBase),
   (["emojipresentation", "epres"], .emojiPresentation),
   (["extendedpictographic", "extpict"], .extendedPictographic),
   (["extender", "ext"], .extender),
   (["graphemebase", "grbase"], .graphemeBase),
   (["graphemeextend", "grext"], .graphemeExtend),
   (["graphemelink", "grlink"], .graphemeLink),
   (["hexdigit", "hex"], .hexDigit),
   (["hyphen"], .hyphen),
   (["idsbinaryoperator", "idsb"], .idsBinaryOperator),
   (["idstrinaryoperator", "idst"], .idsTrinaryOperator),
   (["idcontinue", "idc"], .idContinue),
   (["idstart", "ids"], .idStart),
   (["ideographic", "ideo"], .ideographic),
   (["joincontrol", "joinc"], .joinControl),
   (["logicalorderexception", "loe"], .logicalOrderException),
   (["lowercase", "lower"], .lowercase),
   (["math"], .math),
   (["noncharactercodepoint", "nchar"], .noncharacterCodePoint),
   (["otheralphabetic", "oalpha"], .otherAlphabetic),
   (["othergraphemeextend", "ogrext"], .otherGraphemeExtend),
   (["otheridcontinue", "oidc"], .otherIdContinue),
   (["otheridstart", "oids"], .otherIdStart),
   (["otherlowercase", "olower"], .otherLowercase),
   (["othermath", "omath"], .otherMath),
   (["otheruppercase", "oupper"], .otherUppercase),
   (["patternsyntax", "patsyn"], .patternSyntax),
   (["patternwhitespace", "patws"], .patternWhiteSpace),
   (["prependedconcatenationmark", "pcm"], .prependedConcatenationMark),
   (["quotationmark", "qmark"], .quotationMark),
   (["radical"], .radical),
   (["regionalindicator", "ri"], .regionalIndicator),
   (["sentenceterminal", "sterm"], .sentenceTerminal),
   (["softdotted", "sd"], .softDotted),
   (["terminalpunctuation", "term"], .terminalPunctuation),
   (["unifiedideograph", "uideo"], .unifiedIdeograph),
   (["uppercase", "upper"], .uppercase),
   (["variationselector", "vs"], .variationSelector),
   (["whitespace", "wspace", "space"], .whiteSpace),
   (["xidcontinue", "xidc"], .xidContinue),
   (["xidstart", "xids"], .xidStart)]

/-- The spans of characters with a property. -/
def spans (p : Property) : Spans := Spans.ofNumbers (codedNumbers p.coded)

end Property

end ChildWatch.Unicode
