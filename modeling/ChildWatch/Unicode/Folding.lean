import ChildWatch.Unicode.Runs

/-! # Simple case folding

Characters that differ in case only, by the one-to-one rules of case folding, form an orbit.

* `Folding.others` — the other characters of a character's orbit. -/

namespace ChildWatch.Unicode.Folding

/-- The orbits, as coded numbers: how far the first character lies behind the first one of the orbit
before, how many others there are, and how far each lies behind the first. -/
def coded : String :=
  String.join [
    "X21W111W111W111W111W111W111W111W111W111W112W1.c811W111W111W111W111W111W111W112W1i911W111",
    "W111W111W111W111W111W1x22dNdOB1W111W111W111W111W112W1cZ811W111W111W111W111W111W111W111W1",
    "11W111W111W111W111W111W111W111W111W121W111W111W111W111W111W111W111.j7W11v311121121121121",
    "1211211211211211211211211211211211211211211211211211211211411211211311211211211211211211",
    "21131121121121121121121121121121121121121121121121121121121121121121121131121121131Z611o",
    "611121121k611121j611j611131l211g611h611121j611l611X311p611n611121Z511Xof111p611r611Y411s",
    "611121121121w611121w631121w611121v611v611121121x611141131u152123212321231121121121121121",
    "1211211311211211211211211211211211321231141121121121121121121121121121121121121121121121",
    "121121121121141121121121121121121121121181hnA11131enA11.nA11.nA11131b211d211121121121121",
    "121.mA11ymA11_mAA1lgf151hgf131dhf111eff111agf141agf111tlA11Xgf151zlAC1dlA51Zgf151gff1M1r",
    "ef111oef1d53q2q3vZ7h11121141151Y411Y411Y421q371c121b111b111b121W221.111.111ZY711W112W1_1",
    "11W111W112W1W311W111W113W1v1y222W1s211W121W111W111W112W1s112W1m222VW111W111W112W1l111W11",
    "1W112W1zh711W111W151pX7V1891121121121121121121121121121121121141751131161m211m211m211m21",
    "1m211m211m211m211m211m211m211m211m211m211m211m211W111W112W1kZ611W112W1jZ611W111W111W111W",
    "111W111W111W111W111W112W1aZ611W111W112W1YZ613W1YZ6ZZ611W111W111W111W111W111W111W112W1yY6",
    "11W111W111W111W111W1n111221bX6211211211211211211211211211211211211211211211A112112112112",
    "1121121121121121121121121121121121121121121121121121121121121121121121F11121121121121121",
    "1211311211211211211211211211211211211211211211211211211211211211211211211211211211211211",
    "21121121121121121121121121121121121121121121121121121121121131m111m111m111m111m111m111m1",
    "11m111m111m111m111m111m111m111m111m111m111m111m111m111m111m111m111m111m111m111m111m111m1",
    "11m111m111m111m111m111m111m111m111m1gw21WZ711WZ711WZ711WZ711WZ711WZ711WZ711WZ711WZ711WZ7",
    "11WZ711WZ711WZ711WZ711WZ711WZ711WZ711WZ711WZ711WZ711WZ711WZ711WZ711WZ711WZ711WZ711WZ711W",
    "Z711WZ711WZ711WZ711WZ711WZ711WZ711WZ711WZ711WZ711WZ721WZ761WZ731W_211W_211W_211W_211W_21",
    "1W_211W_211W_211W_211W_211W_211W_211W_211W_211W_211W_211W_211W_211W_211W_211W_211W_211W_",
    "211W_211W_211W_211W_211W_211W_211W_211W_211W_211W_211W_211W_211W_211W_211W_211W_211W_211",
    "W_211W_211W_231W_211W_211W_2XL1m_b111m_b111m_b111m_b111m_b111m_b111m_b111m_b111m_b111m_b",
    "111m_b111m_b111m_b111m_b111m_b111m_b111m_b111m_b111m_b111m_b111m_b111m_b111m_b111m_b111m",
    "_b111m_b111m_b111m_b111m_b111m_b111m_b111m_b111m_b111m_b111m_b111m_b111m_b111m_b111m_b11",
    "1m_b111m_b111m_b111m_b111m_b111m_b111m_b111m_b111m_b111m_b111m_b111m_b111m_b111m_b111m_b",
    "111m_b111m_b111m_b111m_b111m_b111m_b111m_b111m_b111m_b111m_b111m_b111m_b111m_b111m_b111m",
    "_b111m_b111m_b111m_b111m_b111m_b111m_b111m_b111m_b111m_b111m_b111m_b1118118118118118118p",
    "a22YkY1ZkY1111m71amY141ct3H1unY1o3112112112112112112112112112112112112112112112112112112",
    "1121121121121121121121121121121121121121121121121121121121121121121121121121121121121121",
    "1221x1211211211211211211211211211211211211211211211211211211211211211211211211211211C112",
    "1121121121121121121121121121121121121121121121121121121121121121121121121121121121121121",
    "1211211211211211211211211211211211211211211211211211218118118118118118118118918118118118",
    "118118B18118118118118118118118918118118118118118118118918118118118118118C182182182189181",
    "1811811811811811811891g211g211s211s211s211s211a311a311W411W411m311m311_311_3318118118118",
    "118118118118918118118118118118118118918118118118118118118118918118219G19D18118F18118417E",
    "19.91Sk11G11G11G11G11G11G11G11G11G11G11G11G11G11G11G11GK11pP1Q11Q11Q11Q11Q11Q11Q11Q11Q11",
    "Q11Q11Q11Q11Q11Q11Q11Q11Q11Q11Q11Q11Q11Q11Q11Q11Qnv11m111m111m111m111m111m111m111m111m11",
    "1m111m111m111m111m111m111m111m111m111m111m111m111m111m111m111m111m111m111m111m111m111m11",
    "1m111m111m111m111m111m111m111m111m111m111m111m111m111m111m111m111m1n111711211211711311B1",
    "1211211211211211211211211211211211211211211211211211211211211211211211211211211211211211",
    "211211211211211211211211211211211211211211211211211211211211911211511kgU1121121121121141",
    "1211211211211211211211211211211211211211211211211K11211211211211211211211211211211211211",
    "211e411211211211211211211411211211211211211211211211211211211211211211211211211211211211",
    "211211211211211211211211211211B1121131121121121121151151121121m1211211211211211211211211",
    "211211B1WT111211211211211211211211511211311211211211211211211211R11muK11yW11W111W111W111",
    "W111W111W111W111W111W111W111W111W111W111W111W111W111W111W111W111W111W111W111W111W111W111",
    "W1cc11e111e111e111e111e111e111e111e111e111e111e111e111e111e111e111e111e111e111e111e111e1",
    "11e111e111e111e111e111e111e111e111e111e111e111e111e111e111e111e111e111e111e1f41e111e111e",
    "111e111e111e111e111e111e111e111e111e111e111e111e111e111e111e111e111e111e111e111e111e111e",
    "111e111e111e111e111e111e111e111e111e111e111e1z41d111d111d111d111d111d111d111d111d111d111",
    "d121d111d111d111d111d111d111d111d111d111d111d111d111d111d111d121d111d111d111d111d111d111",
    "d121d111d1ht11W211W211W211W211W211W211W211W211W211W211W211W211W211W211W211W211W211W211W2",
    "11W211W211W211W211W211W211W211W211W211W211W211W211W211W211W211W211W211W211W211W211W211W2",
    "11W211W211W211W211W211W211W211W211W211W2_41W111W111W111W111W111W111W111W111W111W111W111W",
    "111W111W111W111W111W111W111W111W111W111W1xv21W111W111W111W111W111W111W111W111W111W111W11",
    "1W111W111W111W111W111W111W111W111W111W111W111W111W111W111W111W111W111W111W111W111W1XiL1W",
    "111W111W111W111W111W111W111W111W111W111W111W111W111W111W111W111W111W111W111W111W111W111W",
    "111W111W111W111W111W111W111W111W111W1X21R11R11R11R11R11R11R11R11R11R11R11R11R11R11R11R11",
    "R11R11R11R11R11R11R11R11ReoU1Y111Y111Y111Y111Y111Y111Y111Y111Y111Y111Y111Y111Y111Y111Y11",
    "1Y111Y111Y111Y111Y111Y111Y111Y111Y111Y111Y111Y111Y111Y111Y111Y111Y111Y111Y1"]

/-- The orbits. -/
def orbits : Nat → Nat → List Nat → List (List Nat)
  | 0, _, _ => []
  | fuel + 1, before, gap :: count :: rest =>
    let first := before + gap
    (first :: (rest.take count).map (first + ·)) :: orbits fuel first (rest.drop count)
  | _, _, _ => []

/-- The members of an orbit, each with the others. -/
def entries (orbit : List Nat) : List (Run (List Char)) :=
  orbit.map fun n => ⟨n, n, (orbit.filter (· != n)).map Char.ofNat⟩

/-- The table of all orbits by member. -/
def table : RunTable (List Char) :=
  let numbers := codedNumbers coded
  let all := (orbits numbers.length 0 numbers).flatMap entries
  ⟨(all.mergeSort fun a b => a.first ≤ b.first).toArray⟩

/-- **The other characters of the orbit.** -/
def others (c : Char) : List Char := (table.find? c.toNat).getD []

end ChildWatch.Unicode.Folding
