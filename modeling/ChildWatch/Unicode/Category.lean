import ChildWatch.Unicode.Runs

/-! # General categories

The general category of every character. A character takes the category of the run it lies in.

* `Category.of` — the category of a character.
* `Category.all` — every category, in the order in which the table counts them.
* `Category.named` — the sets of categories that have a name. -/

namespace ChildWatch.Unicode

/-- The general categories. -/
inductive Category where
  | uppercaseLetter
  | lowercaseLetter
  | titlecaseLetter
  | modifierLetter
  | otherLetter
  | nonspacingMark
  | spacingMark
  | enclosingMark
  | decimalNumber
  | letterNumber
  | otherNumber
  | connectorPunctuation
  | dashPunctuation
  | openPunctuation
  | closePunctuation
  | initialPunctuation
  | finalPunctuation
  | otherPunctuation
  | mathSymbol
  | currencySymbol
  | modifierSymbol
  | otherSymbol
  | spaceSeparator
  | lineSeparator
  | paragraphSeparator
  | control
  | format
  | privateUse
  | unassigned
deriving DecidableEq, Repr, Inhabited

namespace Category

/-- Every category, in the order of the table. -/
def all : List Category :=
  [.uppercaseLetter, .lowercaseLetter, .titlecaseLetter, .modifierLetter,
   .otherLetter, .nonspacingMark, .spacingMark, .enclosingMark,
   .decimalNumber, .letterNumber, .otherNumber, .connectorPunctuation,
   .dashPunctuation, .openPunctuation, .closePunctuation, .initialPunctuation,
   .finalPunctuation, .otherPunctuation, .mathSymbol, .currencySymbol,
   .modifierSymbol, .otherSymbol, .spaceSeparator, .lineSeparator,
   .paragraphSeparator, .control, .format, .privateUse,
   .unassigned]

/-- The named sets of categories: each category by itself, and the groups. Names are in lower case,
without blanks, hyphens and underscores. -/
def named : List (List String × List Category) :=
  [(["lu", "uppercaseletter"], [.uppercaseLetter]),
   (["ll", "lowercaseletter"], [.lowercaseLetter]),
   (["lt", "titlecaseletter"], [.titlecaseLetter]),
   (["lm", "modifierletter"], [.modifierLetter]),
   (["lo", "otherletter"], [.otherLetter]),
   (["mn", "nonspacingmark"], [.nonspacingMark]),
   (["mc", "spacingmark"], [.spacingMark]),
   (["me", "enclosingmark"], [.enclosingMark]),
   (["nd", "decimalnumber", "digit"], [.decimalNumber]),
   (["nl", "letternumber"], [.letterNumber]),
   (["no", "othernumber"], [.otherNumber]),
   (["pc", "connectorpunctuation"], [.connectorPunctuation]),
   (["pd", "dashpunctuation"], [.dashPunctuation]),
   (["ps", "openpunctuation"], [.openPunctuation]),
   (["pe", "closepunctuation"], [.closePunctuation]),
   (["pi", "initialpunctuation"], [.initialPunctuation]),
   (["pf", "finalpunctuation"], [.finalPunctuation]),
   (["po", "otherpunctuation"], [.otherPunctuation]),
   (["sm", "mathsymbol"], [.mathSymbol]),
   (["sc", "currencysymbol"], [.currencySymbol]),
   (["sk", "modifiersymbol"], [.modifierSymbol]),
   (["so", "othersymbol"], [.otherSymbol]),
   (["zs", "spaceseparator"], [.spaceSeparator]),
   (["zl", "lineseparator"], [.lineSeparator]),
   (["zp", "paragraphseparator"], [.paragraphSeparator]),
   (["cc", "control", "cntrl"], [.control]),
   (["cf", "format"], [.format]),
   (["co", "privateuse"], [.privateUse]),
   (["cn", "unassigned"], [.unassigned]),
   (["c", "other"], [
     .control, .format, .privateUse, .unassigned]),
   (["l", "letter"], [
     .uppercaseLetter, .lowercaseLetter, .titlecaseLetter, .modifierLetter,
     .otherLetter]),
   (["lc", "casedletter"], [
     .uppercaseLetter, .lowercaseLetter, .titlecaseLetter]),
   (["m", "mark", "combiningmark"], [
     .nonspacingMark, .spacingMark, .enclosingMark]),
   (["n", "number"], [
     .decimalNumber, .letterNumber, .otherNumber]),
   (["p", "punctuation", "punct"], [
     .connectorPunctuation, .dashPunctuation, .openPunctuation,
     .closePunctuation, .initialPunctuation, .finalPunctuation,
     .otherPunctuation]),
   (["s", "symbol"], [
     .mathSymbol, .currencySymbol, .modifierSymbol, .otherSymbol]),
   (["z", "separator"], [
     .spaceSeparator, .lineSeparator, .paragraphSeparator])]

/-- The runs of characters of one category, as coded numbers. -/
def coded : String :=
  String.join [
    "VP0M2H0J2H0D0E0H0I0H0C1H981H2I1HP00D0H0E0K0B0KP10D0I0E0IW1P0M0H3J0L0H0K0L040F0I0Q0L0K0L0",
    "I1A0K011H0K0A040G2A0HM00I60N10I710001000100010001000100010001000100010001000100010001000",
    "1000100010001000100010001000100010001000100010001000100110001000100010001000100010001001",
    "1000100010001000100010001000100010001000100010001000100010001000100010001000100010001000",
    "1000110010001002110010001100120113001100120211001100100010001100100110001100120010001101",
    "1040021340002010002010002010001000100010001000100010001001100010001000100010001000100010",
    "0010011000201000120010001000100010001000100010001000100010001000100010001000100010001000",
    "1000100010001000100010001000100010001000100010061100110110001300100010001000100a2114P1H3",
    "3KB3DK436K030K03GKl3500010001030K00011S03210H003S1K000H200S000S1001G00S80Y11001120210001",
    "0001000100010001000100010001000100010001004100010I00011011o10l11000100010001000100010001",
    "000100010001000100010001000100010001000100010L451700010001000100010001000100010001000100",
    "0100010001000100010001000100010001000100010001000100010001000100010001100100010001000100",
    "0100010011000100010001000100010001000100010001000100010001000100010001000100010001000100",
    "0100010001000100010001000100010001000100010001000100010001000100010001000100010001000100",
    "010001000100010001000100010Sb101S035He110H0C1S1L0J0Si150C050H150H150H057SQ43S341HAS5Q2I1",
    "H0J1H1LA50H0Q2HV40394K5983H1405Y340H04650Q0L5513150L351498241L04DH0S0Q0405T4Q51Su24A504D",
    "S98W1485130L2H031S051JL4350385032503451SEH0SO4251S0H0SA44SN40K641Q4S85e1403N50QV506r1405",
    "0605042675360516046594151H980H03E405160S741S141SL40S640S042S341S050426351S161S1605047S06",
    "3S140S24151S98141J5A0L0J040H051S15060S543S141SL40S640S140S140S141S050S26153S151S252S056S",
    "340S046S981524050H9S15060S840S240SL40S640S140S441S050426450S15060S16051S04ES14151S980H0J",
    "6S04550S05160S741S141SL40S640S140S441S0504060506351S161S16056S15063S140S24151S980L045A9S",
    "05040S542S240S342S140S040S142S142S242SB43S1605162S260S26051S045S06DS982A5L0J0L4S05260574",
    "0S240SM40SF41S050425360S250S356S150S240S141S14151S986S0H6A0L0405160H740S240SM40S940S441S",
    "05040605460S05160S16156S164S240S14151S980S1406BS1516840S240Se14150426350S260S2605040L3S2",
    "4066A24151S988A0L540S05160SH42SN40S840S041S642S053S26250S050S765S981S160HBSl140514653S0J",
    "5403750H981Ha1S140S040S440SN40S040S94051485041S440S030S650S981S34VS042LEH0L0H2L155L989A0",
    "L050L050L050D0E0D0E16740SZ143SD506450H1544A50SZ150S7L055L0S1L4H3L1Ha1Sg14163506550615161",
    "504985H5416153425042614662435C4051615560504069826051Lb100S004S001Sg110H0321eA40S341S640S",
    "040S341Se140S341SW140S341S640S040S341SE40Su140S341SY241S258HJA2SF49L5Sr201S511S0ChJ40L0H",
    "G40MP40D0E2Sg242H29746SH425068SI415061H8SH415BSC40S240S15BSp14150665760516A52H032H0J0405",
    "1S985S9A5S5H0C3H250Q05985SY1403q146S4415X1405044Sb249SU40S253615263S160556253S0L2S1H98T4",
    "1S44ASh143SP45S980A2SX1LM41516051S1Hq14060506650S050605167556951S05985S985S6H035H1SD507U",
    "51SB5JS3506k140506450605460516740S1H986H9L858L2H1506T40635161506251498h14050615260506251",
    "67S3HZ14767516152S4H982S2498T4531H8100014Sg101S207H7S250HC5066534055405140615044Sh11_13C",
    "103X11a13.150001000100010001000100010001000100010001000100010001000100010001000100010001",
    "0001000100010001000100010001000100010001000100010001000100010001000100010001000100010001",
    "0001000100010001000100010001000100010001000100010001000100010001000100010001000100010001",
    "0001000100010001000100010001000100010001000100810001000100010001000100010001000100010001",
    "0001000100010001000100010001000100010001000100010001000100010001000100010001000100010001",
    "0001000100010001000100010001000100010001000100010001000100010001008170511S501S7170717051",
    "1S501S710S000S000S000S007170D11S717271727172410S1130020K012K210S1130022K311S11300S2K7140",
    "2K1S210S1130021K0SAM4Q5C1H0F0G0D1F0G0D0F7H0N0O4Q0M8H0F0G3H1B2H0I0D0EAH0I0H0B9H0M4Q0S9Q0A",
    "031S5A2I0D0E039A2I0D0E0SC32SX1JDSC5370527B5ES1L003L001L01201120010L001L0I405L000L000L000",
    "L300L01300134011L11104I00310L0I1L010LFAY190001390A1L3S4I4L1I3L0I1L0I1L0I6L0IUL1I1L0I0L0I",
    "ULh8I7L0D0E0D0EJL1I6L0D0Em2L0ITLOId1L5Id2LLSALKSx1Aj2LLAs5L0I8L0Ir1L7Ik3L0It7L0D0E0D0E0D",
    "0E0D0E0D0E0D0E0D0ETAh1L4I0D0EUI0D0E0D0E0D0E0D0E0D0EFI.7LY4I0D0E0D0E0D0E0D0E0D0E0D0E0D0E0",
    "D0E0D0E0D0E0D0E_1I0D0E0D0EVI0D0EX8Il1LKI1L5Ic1L1Sf4Ll10l11000120110001000100013001001100",
    "5113200100010001000100010001000100010001000100010001000100010001000100010001000100010001",
    "0001000100010001000100010001000100010001000100010001000100010001000100010001000100010001",
    "00010001000100010001000100115L000100012500014S3H0A1Hb110S014S011St146S030HDS05M48S640S64",
    "0S640S640S640S640S640S640SV51H0F0G0F0G2H0F0G0H0F0G8H0C1H0C0H0F0G1H0F0G0D0E0D0E0D0E0D0E4H",
    "039H1C3H0C0H0DCH1L2H0D0E0D0E0D0E0D0E0CX1SPL0Su2LBSr6LPSFL0M2H0L0304090D0E0D0E0D0E0D0E0D0",
    "E1L0D0E0D0E0D0E0D0E0C0D1E0L8935160C431L2903040H1L0Sr241S151K13040Cv240H23044Sg140Sz240S1",
    "L3A9LV4b1L8S0LF4UL0S9ATL7A0LEAVL9Ac1LEA.9L.j64.1LqmK403sZ142Ss1L8Sd14531Hh84032HF49814JS",
    "0001000100010001000100010001000100010001000100010001000100010001000100010001000100010001",
    "00010405270H950H03000100010001000100010001000100010001000100010001000100011315b2499155H7",
    "SMK831K000100010001000100010001002100010001000100010001000100010001000100010001000100010",
    "0010001000100010001000100010001000100010001000100010001000100010001000103710001000110010",
    "001000100010001031K000100010400010021000100010001000100010001000100010001000140014001000",
    "1000100010001000100010001300100011001000100010001000100010001000100JS3300010413016405240",
    "53405M41615063L052S5A1L0J0L5Sp143H7S16n14F6157S1H985SH5542H040H140598R4751HM4A516AS0HS42",
    "S2506k14051635161526CH0S03983S1H4405038498440Se1455161516158S24057405061S981S3HF403542L0",
    "4060506n1405042514154415040504NS14031HA40615161H041306059S541S541S548S640S640Sg110K33810",
    "31K3Sl21Y1416051605160H06051S985SZzA4BSM43Sm14ZW2S.d6RjB41Sf34b1S61BS414S0405940IC40S440",
    "S040S140S140Sh34GKFLgB40E0DFL.141Lr147LVSB40J2LF56H0D0E0H5SF50H1C1B0D0E0D0E0D0E0D0E0D0E0",
    "D0E0D0E0D0E1H0D0E3H2B2H0S3H0C0D0E0D0E0D0E2H0I0C2I0S0H0J1H3S440Sc441S0Q0S2H0J2H0D0E0H0I0H",
    "0C1H981H2I1HP00D0H0E0K0B0KP10D0I0E0I0D0E0H0D0E1H9403i1413U42S541S541S541S242S1J0I0K0L1J0",
    "S0L3I1L9S2Q1L1SB40SP40SI40S140SE41SD4X1Sw344S2H3Si1A2S8Lq193AGL1A2L0SCL2S0Lk1Si1L05X4SS4",
    "2Sm14ES05QA3SV43A8SJ40974094Sb14454ST40S0HZ143S740H49f1Sd10d11j241S985SZ103SZ113Sd147Sp1",
    "4AS0HA00SE00S600S100SA10SE10S610S112Sp14BSs948SL49S74NS530Sf130S83a2S541S040Sh140S142S04",
    "1SM40S0H7AM41L6AU47S8Al1SI40S144S4AL45A2S0HP44S0HP4b1St143S1A14FA1Sj1A04250S154S35340S24",
    "0SS41S253S058A6S8H6SS41A0HS42AVS740LR4153S4A6H8Sr142S6HL41S7AI44S7AH46S3HBS6Al2Se24s1So1",
    "0CSo116S5AZ14357S985S98340304L02S450C03L17S1Il6SUA0Sf140S150C1S14FS2403147S0H7LW1S55S49A",
    "047SL4A53A4HLSH4353Hb1SK46AJSM48S060506q14E56H3SJA98051415048S2506i14263516151H0Q3H059S0",
    "Q1SO46S985S25Z144506750S983H0416047SY14051H048S1506l14268516343H350H060598040H042H0SJAAS",
    "H40SO42625160506155H051405z1S640S040S340SE40S940H5Sk140526754S985S15160S741S141SL40S640S",
    "140S440S15041605361S161S261S045S064S44161S652S45AS940S041S040Sb140S0426550S061S060S360S1",
    "60506050405041H0S1H7S15SSq14267516250605344H981H0S0H0524TSl142655060536150615140H047S98b",
    "5Sk1426351S36150615MH3415X1Sl142675160506152H04AS985SCHISg1405060516550605040H5S985SJ8RS",
    "Q41S050605163506453S981A2H0L64u5Sh14268506150HZ3SV0V1988ABS741S041S740S140SN4560S161S150",
    "60504060406052H8S98b2S741Sc1426351S153605040H0406QS0495d14550604357H057S04551625j14C5061",
    "52H044HCSe246S9Hr2S050625060506t2SW140HDS985S840Sa1406650S550605044H9S98IA2S1HT41SL50S06",
    "6506150615e2S640S140Sb14552S050S150S6504057S985S540S140SV4460S150S16050605046S985Se14031",
    "43S98r7SI415161H6S150406C40SX1416452S16050605CH9805q2S04ESKA7L3JGLCS0HvS4b3Sk390S4HASZ64",
    "ho2SW341HCSlX14FQ0554E59Swy344ScI4ur6ST4B5262598bs1SuH46SU40S983S1Hk240S985ST41S450H9Sl1",
    "4654H3L330H0L9S980S6A0SK44SI4lDS23d14132H98b6SV0V1MA3H4SO01SO1h1Sg243S0504s166S35C3.1S13",
    "0H0305AS1613298Src74e1SV4W3So34yl8S330S630S130SY94ES04SS241S04DS347ShC4Ze2Sg344SC42S846S",
    "941S0L150H3Qxw3Sl7L982L2SpDL5SMLESFL0IESj151SM58Sp3Lx1Sr7L9Sc1L1Sx1L16252L567Q751L65TL35",
    "y1LKSX2L250Lv3SJABSJABSs2L8SOAc4SP0P1P0610SH1P0P1000S101S001S101S300S70310S010S610SA1P0P",
    "1100S301S700S600SP1100S300S400S002S600SP1P0P1P0P1P0P1P0P1P0P1P0R11SO00IO10I51O00IO10I51O",
    "00IO10I51O00IO10I51O00IO10I5100011Sn18.FLs153Ln157L05DL051L4HES450SE5lY1S9104J15S51q6S65",
    "0SG51S650S150S454Sz13W1S05l3Si142S65631S983S040L.9ST405GSh1435984S0JlESQ4033598r6ST41504",
    "983S0H.5SU40S24051405641544057S0403.6S640S340S140SE40Sa641S8A65e1SX10X1165033S983S1HmOSw",
    "1A0L2A0J3Ah2Si1A0LEAX6S340SQ40S140S041S040S940S340S040S045S043S040S040S040S240S140S041S0",
    "40S040S040S040S040S140S041S340S640S340S340S040S940SG44S240S440SG4p1S1Ij8Sh1L3SZ3LBSEL1SE",
    "L0SEL0Sa1L9SCAW5Lt1SSLCSh1L3S8L6S1LDS5Lv4Sw7L4KuML2SGL2SCL2Sv6L5SBL3S0LESBL3St1L7S9L5Sd1",
    "L7STL1SBL3S1LDS8Ic1StAL7SDL1SCL2SAL2Su1L0S0L3SFL1SBL3S9L6So4L0Sx2L980LaW1S.sf14VSze441Sj",
    "q541Smf74ESjJ4Xj2SzG4Xl1Sgw444Sff84cyoLS0QTS.2Q.3Sl75lm.1Sz..1R1Sz..1R1S"]

/-- The table of all runs. -/
def table : RunTable Category :=
  RunTable.ofLengths (fun i => all[i]?.getD .unassigned) (codedNumbers coded)

/-- **The category of a character.** -/
def of (c : Char) : Category := (table.find? c.toNat).getD .unassigned

end Category

end ChildWatch.Unicode
