import Pinpoint.Url.Mark

/-! The composed form of text: marks in the order of their classes, and one character where a
letter and a mark have one. -/

namespace Pinpoint.Url

/-- For the code of a mark the letters that it makes one character with, and what they make. -/
def compositions : List (Nat × String × String) := [
  (0x300, "aeiouünеиēōwâăêôơưyἀἁἐἑἠἡἰἱὀὁὐὑὠὡαεηιουωϊϋ",
    "àèìòùǜǹѐѝḕṑẁầằềồờừỳἂἃἒἓἢἣἲἳὂὃὒὓὢὣὰὲὴὶὸὺὼῒῢ"),
  (0x301, "aeiouyclnrszügåæøϊαεηιϋουωгкçēïkmõōpũwâăêôơưἀἁἐἑἠἡἰἱὀὁὐὑὠὡ",
    "áéíóúýćĺńŕśźǘǵǻǽǿΐάέήίΰόύώѓќḉḗḯḱḿṍṓṕṹẃấắếốớứἄἅἔἕἤἥἴἵὄὅὔὕὤὥ"),
  (0x302, "aeioucghjswyzạẹọ", "âêîôûĉĝĥĵŝŵŷẑậệộ"),
  (0x303, "anoiuvâăeêôơưy", "ãñõĩũṽẫẵẽễỗỡữỹ"),
  (0x304, "aeiouüäȧæǫöõȯyиуgḷṛαιυ", "āēīōūǖǟǡǣǭȫȭȱȳӣӯḡḹṝᾱῑῡ"),
  (0x306, "aegiouиужаеȩạαιυ", "ăĕğĭŏŭйўӂӑӗḝặᾰῐῠ"),
  (0x307, "cegzaobdfhmnprsśšṣtwxy𐗒𐗚", "ċėġżȧȯḃḋḟḣṁṅṗṙṡṥṧṩṫẇẋẏ𐗉𐗤"),
  (0x308, "aeiouyιυеіаәжзиоөэучыhõūwxt", "äëïöüÿϊϋёїӓӛӝӟӥӧӫӭӱӵӹḧṏṻẅẍẗ"),
  (0x309, "aâăeêioôơuưy", "ảẩẳẻểỉỏổởủửỷ"),
  (0x30A, "auwy", "åůẘẙ"),
  (0x30B, "ouу", "őűӳ"),
  (0x30C, "cdelnrstzaiouügkʒjh", "čďěľňřšťžǎǐǒǔǚǧǩǯǰȟ"),
  (0x30F, "aeioruѵ", "ȁȅȉȍȑȕѷ"),
  (0x311, "aeioru", "ȃȇȋȏȓȗ"),
  (0x313, "αεηιουωρ", "ἀἐἠἰὀὐὠῤ"),
  (0x314, "αεηιουωρ", "ἁἑἡἱὁὑὡῥ"),
  (0x31B, "ou", "ơư"),
  (0x323, "bdhklmnrstvwzaeioơuưy", "ḅḍḥḳḷṃṇṛṣṭṿẉẓạẹịọợụựỵ"),
  (0x324, "u", "ṳ"),
  (0x325, "a", "ḁ"),
  (0x326, "st", "șț"),
  (0x327, "cgklnrstedh", "çģķļņŗşţȩḑḩ"),
  (0x328, "aeiuo", "ąęįųǫ"),
  (0x32D, "delntu", "ḓḙḽṋṱṷ"),
  (0x32E, "h", "ḫ"),
  (0x330, "eiu", "ḛḭṵ"),
  (0x331, "bdklnrtzh", "ḇḏḵḻṉṟṯẕẖ"),
  (0x338, "←→↔⇐⇔⇒∃∈∋∣∥∼≃≅≈=≡≍<>≤≥≲≳≶≷≺≻⊂⊃⊆⊇⊢⊨⊩⊫≼≽⊑⊒⊲⊳⊴⊵",
    "↚↛↮⇍⇎⇏∄∉∌∤∦≁≄≇≉≠≢≭≮≯≰≱≴≵≸≹⊀⊁⊄⊅⊈⊉⊬⊭⊮⊯⋠⋡⋢⋣⋪⋫⋬⋭"),
  (0x342, "ἀἁἠἡἰἱὐὑὠὡαηιϊυϋω", "ἆἇἦἧἶἷὖὗὦὧᾶῆῖῗῦῧῶ"),
  (0x653, "ا", "آ"),
  (0x654, "اويەہے", "أؤئۀۂۓ"),
  (0x655, "ا", "إ"),
  (0x93C, "नरळ", "ऩऱऴ"),
  (0x9BE, "ে", "ো"),
  (0x9D7, "ে", "ৌ"),
  (0xB3E, "େ", "ୋ"),
  (0xB56, "େ", "ୈ"),
  (0xB57, "େ", "ୌ"),
  (0xBBE, "ெே", "ொோ"),
  (0xBD7, "ஒெ", "ஔௌ"),
  (0xC56, "ె", "ై"),
  (0xCC2, "ೆ", "ೊ"),
  (0xCD5, "ಿೆೊ", "ೀೇೋ"),
  (0xCD6, "ೆ", "ೈ"),
  (0xD3E, "െേ", "ൊോ"),
  (0xD57, "െ", "ൌ"),
  (0xDCA, "ෙො", "ේෝ"),
  (0xDCF, "ෙ", "ො"),
  (0xDDF, "ෙ", "ෞ"),
  (0x102E, "ဥ", "ဦ"),
  (0x1B35, "ᬅᬇᬉᬋᬍᬑᬺᬼᬾᬿᭂ", "ᬆᬈᬊᬌᬎᬒᬻᬽᭀᭁᭃ"),
  (0x3099, "かきくけこさしすせそたちつてとはひふへほうゝカキクケコサシスセソタチツテトハヒフヘホウワヰヱヲヽ",
    "がぎぐげござじずぜぞだぢづでどばびぶべぼゔゞガギグゲゴザジズゼゾダヂヅデドバビブベボヴヷヸヹヺヾ"),
  (0x309A, "はひふへほハヒフヘホ", "ぱぴぷぺぽパピプペポ"),
  (0x110BA, "𑂙𑂛𑂥", "𑂚𑂜𑂫"),
  (0x11127, "𑄱𑄲", "𑄮𑄯"),
  (0x1133E, "𑍇", "𑍋"),
  (0x11357, "𑍇", "𑍌"),
  (0x113B8, "𑏂", "𑏇"),
  (0x113BB, "𑎄", "𑎅"),
  (0x113C2, "𑎎", "𑎎𑏅"),
  (0x113C9, "𑎂𑎐𑏂", "𑎃𑎑𑏈"),
  (0x114B0, "𑒹", "𑒼"),
  (0x114BA, "𑒹", "𑒻"),
  (0x114BD, "𑒹", "𑒾"),
  (0x115AF, "𑖸𑖹", "𑖺𑖻"),
  (0x11930, "𑤵", "𑤸"),
  (0x1611E, "𖄞", "𖄡"),
  (0x1611F, "𖄢𖄡𖄢", "𖄣𖄤𖄦𖄧"),
  (0x16120, "𖄡𖄞", "𖄥𖄨"),
  (0x16129, "𖄞", "𖄢"),
  (0x16D67, "𖵧𖵣𖵩", "𖵨𖵩𖵪")]

/-- Syllables of Hangul are made of a consonant, a vowel and mostly another consonant. -/
def syllable? (a b : Char) : Option Char :=
  let n := a.toNat
  let m := b.toNat
  if 0x1100 ≤ n && n ≤ 0x1112 && 0x1161 ≤ m && m ≤ 0x1175 then
    some (Char.ofNat (0xAC00 + ((n - 0x1100) * 21 + (m - 0x1161)) * 28))
  else if 0xAC00 ≤ n && n ≤ 0xD7A3 && (n - 0xAC00) % 28 = 0 && 0x11A8 ≤ m && m ≤ 0x11C2 then
    some (Char.ofNat (n + (m - 0x11A7)))
  else none

def syllableParts? (c : Char) : Option (Char × Char) :=
  if c.toNat < 0xAC00 || 0xD7A3 < c.toNat then none
  else
    let n := c.toNat - 0xAC00
    if n % 28 = 0 then some (Char.ofNat (0x1100 + n / 588), Char.ofNat (0x1161 + n / 28 % 21))
    else some (Char.ofNat (c.toNat - n % 28), Char.ofNat (0x11A7 + n % 28))

def compose? (a b : Char) : Option Char :=
  syllable? a b <|> do
    let (_, letters, composites) ← compositions.find? fun (mark, _) => mark = b.toNat
    (letters.toList.zip composites.toList).lookup a

def decompose? (c : Char) : Option (Char × Char) :=
  syllableParts? c <|> compositions.findSome? fun (mark, letters, composites) =>
    ((composites.toList.zip letters.toList).lookup c).map fun a => (a, Char.ofNat mark)

/-- The parts of a character. The first of two may have parts itself, down to a depth. -/
def parts : Nat → Char → List Char
  | 0, c => [c]
  | depth + 1, c =>
    match decompose? c with
    | some (a, b) => parts depth a ++ [b]
    | none => [c]

/-- Puts a mark behind those that follow it and have a lower class. -/
def place (c : Char) : List Char → List Char
  | [] => [c]
  | d :: ds =>
    if 0 < combiningClass d && combiningClass d < combiningClass c then d :: place c ds
    else c :: d :: ds

/-- Makes one character of `base` and the marks that allow it. Those in `waiting` stand between and
do not; a mark reaches the base when it has a higher class than they. -/
def joinMarks (base : Char) (waiting : List Char) : List Char → List Char
  | [] => base :: waiting
  | c :: cs =>
    let reaches := waiting.getLast?.all fun d => combiningClass d < combiningClass c
    match if reaches then compose? base c else none with
    | some composite => joinMarks composite waiting cs
    | none =>
      if combiningClass c = 0 then base :: waiting ++ joinMarks c [] cs
      else joinMarks base (waiting ++ [c]) cs

/-- Takes every character apart, orders the marks and puts the parts together again. No character
has more than three parts. -/
def composedForm (cs : List Char) : List Char :=
  match (cs.flatMap (parts 2)).foldr place [] with
  | [] => []
  | c :: rest => joinMarks c [] rest

end Pinpoint.Url
