import Workflow.Text.Blank
import Workflow.Text.Combining

/-!
# Composed texts

A letter with a mark may be written as one character or as two. In a composed text it is one wherever
there is such a character, and marks stand in the order of their classes. A text is composed when it
does not change by being taken apart and put together again.
-/

namespace Workflow.Text

/-- Characters that no composed text holds, as ranges of code points. -/
def replacedRanges : List (Nat × Nat) :=
  [(832, 833), (835, 836), (884, 884), (894, 894), (903, 903), (2392, 2399), (2524, 2525),
    (2527, 2527), (2611, 2611), (2614, 2614), (2649, 2651), (2654, 2654), (2908, 2909),
    (3907, 3907), (3917, 3917), (3922, 3922), (3927, 3927), (3932, 3932), (3945, 3945),
    (3955, 3955), (3957, 3958), (3960, 3960), (3969, 3969), (3987, 3987), (3997, 3997),
    (4002, 4002), (4007, 4007), (4012, 4012), (4025, 4025), (8049, 8049), (8051, 8051),
    (8053, 8053), (8055, 8055), (8057, 8057), (8059, 8059), (8061, 8061), (8123, 8123),
    (8126, 8126), (8137, 8137), (8139, 8139), (8147, 8147), (8155, 8155), (8163, 8163),
    (8171, 8171), (8174, 8175), (8185, 8185), (8187, 8187), (8189, 8189), (8192, 8193),
    (8486, 8486), (8490, 8491), (9001, 9002), (10972, 10972), (63744, 64013), (64016, 64016),
    (64018, 64018), (64021, 64030), (64032, 64032), (64034, 64034), (64037, 64038), (64042, 64109),
    (64112, 64217), (64285, 64285), (64287, 64287), (64298, 64310), (64312, 64316), (64318, 64318),
    (64320, 64321), (64323, 64324), (64326, 64334), (119134, 119140), (119227, 119232),
    (194560, 195101)]

/-- For each mark the characters that it goes together with, each followed by what the two make. -/
def compositions : List (Nat × String) :=
  [(768, "AÀEÈIÌOÒUÙaàeèiìoòuùÜǛüǜNǸnǹЕЀИЍеѐиѝĒḔēḕŌṐōṑWẀwẁÂẦâầĂẰăằÊỀêềÔỒôồƠỜơờƯỪưừYỲyỳἀἂἁἃ" ++
      "ἈἊἉἋἐἒἑἓἘἚἙἛἠἢἡἣἨἪἩἫἰἲἱἳἸἺἹἻὀὂὁὃὈὊὉὋὐὒὑὓὙὛὠὢὡὣὨὪὩὫαὰεὲηὴιὶοὸυὺωὼΑᾺΕῈΗῊ᾿῍ϊῒΙῚ῾῝ϋῢ" ++
      "ΥῪ¨῭ΟῸΩῺ"),
    (769, "AÁEÉIÍOÓUÚYÝaáeéiíoóuúyýCĆcćLĹlĺNŃnńRŔrŕSŚsśZŹzźÜǗüǘGǴgǵÅǺåǻÆǼæǽØǾøǿ¨΅ΑΆΕΈΗΉΙΊΟΌ" ++
      "ΥΎΩΏϊΐαάεέηήιίϋΰοόυύωώϒϓГЃКЌгѓкќÇḈçḉĒḖēḗÏḮïḯKḰkḱMḾmḿÕṌõṍŌṒōṓPṔpṕŨṸũṹWẂwẃÂẤâấĂẮăắ" ++
      "ÊẾêếÔỐôốƠỚơớƯỨưứἀἄἁἅἈἌἉἍἐἔἑἕἘἜἙἝἠἤἡἥἨἬἩἭἰἴἱἵἸἼἹἽὀὄὁὅὈὌὉὍὐὔὑὕὙὝὠὤὡὥὨὬὩὭ᾿῎῾῞"),
    (770, "AÂEÊIÎOÔUÛaâeêiîoôuûCĈcĉGĜgĝHĤhĥJĴjĵSŜsŝWŴwŵYŶyŷZẐzẑẠẬạậẸỆẹệỌỘọộ"),
    (771, "AÃNÑOÕaãnñoõIĨiĩUŨuũVṼvṽÂẪâẫĂẴăẵEẼeẽÊỄêễÔỖôỗƠỠơỡƯỮưữYỸyỹ"),
    (772, "AĀaāEĒeēIĪiīOŌoōUŪuūÜǕüǖÄǞäǟȦǠȧǡÆǢæǣǪǬǫǭÖȪöȫÕȬõȭȮȰȯȱYȲyȳИӢиӣУӮуӯGḠgḡḶḸḷḹṚṜṛṝαᾱΑᾹ" ++
      "ιῑΙῙυῡΥῩ"),
    (774, "AĂaăEĔeĕGĞgğIĬiĭOŎoŏUŬuŭУЎИЙийуўЖӁжӂАӐаӑЕӖеӗȨḜȩḝẠẶạặαᾰΑᾸιῐΙῘυῠΥῨ"),
    (775, "CĊcċEĖeėGĠgġIİZŻzżAȦaȧOȮoȯBḂbḃDḊdḋFḞfḟHḢhḣMṀmṁNṄnṅPṖpṗRṘrṙSṠsṡŚṤśṥŠṦšṧṢṨṣṩTṪtṫWẆ" ++
      "wẇXẊxẋYẎyẏſẛ"),
    (776, "AÄEËIÏOÖUÜaäeëiïoöuüyÿYŸΙΪΥΫιϊυϋϒϔЕЁІЇеёіїАӒаӓӘӚәӛЖӜжӝЗӞзӟИӤиӥОӦоӧӨӪөӫЭӬэӭУӰуӱЧӴ" ++
      "чӵЫӸыӹHḦhḧÕṎõṏŪṺūṻWẄwẅXẌxẍtẗ"),
    (777, "AẢaảÂẨâẩĂẲăẳEẺeẻÊỂêểIỈiỉOỎoỏÔỔôổƠỞơởUỦuủƯỬưửYỶyỷ"),
    (778, "AÅaåUŮuůwẘyẙ"),
    (779, "OŐoőUŰuűУӲуӳ"),
    (780, "CČcčDĎdďEĚeěLĽlľNŇnňRŘrřSŠsšTŤtťZŽzžAǍaǎIǏiǐOǑoǒUǓuǔÜǙüǚGǦgǧKǨkǩƷǮʒǯjǰHȞhȟ"),
    (783, "AȀaȁEȄeȅIȈiȉOȌoȍRȐrȑUȔuȕѴѶѵѷ"),
    (785, "AȂaȃEȆeȇIȊiȋOȎoȏRȒrȓUȖuȗ"),
    (787, "αἀΑἈεἐΕἘηἠΗἨιἰΙἸοὀΟὈυὐωὠΩὨρῤ"),
    (788, "αἁΑἉεἑΕἙηἡΗἩιἱΙἹοὁΟὉυὑΥὙωὡΩὩρῥΡῬ"),
    (795, "OƠoơUƯuư"),
    (803, "BḄbḅDḌdḍHḤhḥKḲkḳLḶlḷMṂmṃNṆnṇRṚrṛSṢsṣTṬtṭVṾvṿWẈwẉZẒzẓAẠaạEẸeẹIỊiịOỌoọƠỢơợUỤuụƯỰưự" ++
      "YỴyỵ"),
    (804, "UṲuṳ"),
    (805, "AḀaḁ"),
    (806, "SȘsșTȚtț"),
    (807, "CÇcçGĢgģKĶkķLĻlļNŅnņRŖrŗSŞsşTŢtţEȨeȩDḐdḑHḨhḩ"),
    (808, "AĄaąEĘeęIĮiįUŲuųOǪoǫ"),
    (813, "DḒdḓEḘeḙLḼlḽNṊnṋTṰtṱUṶuṷ"),
    (814, "HḪhḫ"),
    (816, "EḚeḛIḬiḭUṴuṵ"),
    (817, "BḆbḇDḎdḏKḴkḵLḺlḻNṈnṉRṞrṟTṮtṯZẔzẕhẖ"),
    (824, "←↚→↛↔↮⇐⇍⇔⇎⇒⇏∃∄∈∉∋∌∣∤∥∦∼≁≃≄≅≇≈≉=≠≡≢≍≭<≮>≯≤≰≥≱≲≴≳≵≶≸≷≹≺⊀≻⊁⊂⊄⊃⊅⊆⊈⊇⊉⊢⊬⊨⊭⊩⊮⊫⊯≼⋠≽⋡⊑⋢⊒⋣" ++
      "⊲⋪⊳⋫⊴⋬⊵⋭"),
    (834, "ἀἆἁἇἈἎἉἏἠἦἡἧἨἮἩἯἰἶἱἷἸἾἹἿὐὖὑὗὙὟὠὦὡὧὨὮὩὯαᾶ¨῁ηῆ᾿῏ιῖϊῗ῾῟υῦϋῧωῶ"),
    (837, "ἀᾀἁᾁἂᾂἃᾃἄᾄἅᾅἆᾆἇᾇἈᾈἉᾉἊᾊἋᾋἌᾌἍᾍἎᾎἏᾏἠᾐἡᾑἢᾒἣᾓἤᾔἥᾕἦᾖἧᾗἨᾘἩᾙἪᾚἫᾛἬᾜἭᾝἮᾞἯᾟὠᾠὡᾡὢᾢὣᾣὤᾤὥᾥὦᾦὧᾧ" ++
      "ὨᾨὩᾩὪᾪὫᾫὬᾬὭᾭὮᾮὯᾯὰᾲαᾳάᾴᾶᾷΑᾼὴῂηῃήῄῆῇΗῌὼῲωῳώῴῶῷΩῼ"),
    (1619, "\u0627\u0622"),
    (1620, "\u0627\u0623\u0648\u0624\u064a\u0626\u06d5\u06c0\u06c1\u06c2\u06d2\u06d3"),
    (1621, "\u0627\u0625"),
    (2364, "नऩरऱळऴ"),
    (2494, "\u09c7\u09cb"),
    (2519, "\u09c7\u09cc"),
    (2878, "\u0b47\u0b4b"),
    (2902, "\u0b47\u0b48"),
    (2903, "\u0b47\u0b4c"),
    (3006, "\u0bc6\u0bca\u0bc7\u0bcb"),
    (3031, "ஒஔ\u0bc6\u0bcc"),
    (3158, "\u0c46\u0c48"),
    (3266, "\u0cc6\u0cca"),
    (3285, "\u0cbf\u0cc0\u0cc6\u0cc7\u0cca\u0ccb"),
    (3286, "\u0cc6\u0cc8"),
    (3390, "\u0d46\u0d4a\u0d47\u0d4b"),
    (3415, "\u0d46\u0d4c"),
    (3530, "\u0dd9\u0dda\u0ddc\u0ddd"),
    (3535, "\u0dd9\u0ddc"),
    (3551, "\u0dd9\u0dde"),
    (4142, "ဥဦ"),
    (6965, "ᬅᬆᬇᬈᬉᬊᬋᬌᬍᬎᬑᬒ\u1b3a\u1b3b\u1b3c\u1b3d\u1b3e\u1b40\u1b3f\u1b41\u1b42\u1b43"),
    (12441, "かがきぎくぐけげこごさざしじすずせぜそぞただちぢつづてでとどはばひびふぶへべほぼうゔゝゞカガキギクグケゲコゴサザシジスズセゼソゾタダチヂツヅテデトドハバヒビフブ" ++
      "ヘベホボウヴワヷヰヸヱヹヲヺヽヾ"),
    (12442, "はぱひぴふぷへぺほぽハパヒピフプヘペホポ")]

/-- The same for code points beyond sixteen bits: the character, the mark, and what they make. -/
def wideCompositions : List (Nat × Nat × Nat) :=
  [(69785, 69818, 69786), (69787, 69818, 69788), (69797, 69818, 69803), (69937, 69927, 69934),
    (69938, 69927, 69935), (70471, 70462, 70475), (70471, 70487, 70476), (70841, 70832, 70844),
    (70841, 70842, 70843), (70841, 70845, 70846), (71096, 71087, 71098), (71097, 71087, 71099),
    (71989, 71984, 71992)]

/-- Characters and what they make, from a text in which they take turns. -/
def turns : List Char → List (Nat × Nat)
  | base :: whole :: rest => (base.toNat, whole.toNat) :: turns rest
  | _ => []

/-- The first and the last of the syllables that are put together by their number. -/
def syllables : Nat × Nat := (0xac00, 0xd7a3)

/-- What a code point and a mark make. A syllable is made of a head, a vowel and perhaps a tail. -/
def whole? (base mark : Nat) : Option Nat :=
  if 0x1100 ≤ base && base < 0x1113 && 0x1161 ≤ mark && mark < 0x1176 then
    some (syllables.1 + ((base - 0x1100) * 21 + (mark - 0x1161)) * 28)
  else if syllables.1 ≤ base && base ≤ syllables.2 && (base - syllables.1) % 28 = 0 &&
      0x11a7 < mark && mark < 0x11c3 then
    some (base + (mark - 0x11a7))
  else match compositions.find? (·.1 = mark) with
    | some (_, text) => ((turns text.toList).find? (·.1 = base)).map (·.2)
    | none =>
      (wideCompositions.find? fun (first, second, _) => first = base && second = mark).map (·.2.2)

/-- The two code points that one is made of. -/
def parts? (code : Nat) : Option (Nat × Nat) :=
  if syllables.1 ≤ code && code ≤ syllables.2 then
    let place := code - syllables.1
    if place % 28 = 0 then some (0x1100 + place / 588, 0x1161 + place % 588 / 28)
    else some (code - place % 28, 0x11a7 + place % 28)
  else
    let narrow := compositions.findSome? fun (mark, text) =>
      ((turns text.toList).find? (·.2 = code)).map fun pair => (pair.1, mark)
    narrow.or <| (wideCompositions.find? (·.2.2 = code)).map fun (base, mark, _) => (base, mark)

/-- A code point taken apart, at most so many times. -/
def takenApart : (times : Nat) → (code : Nat) → List Nat
  | 0, code => [code]
  | times + 1, code =>
    match parts? code with
    | some (base, mark) => takenApart times base ++ [mark]
    | none => [code]

/-- Puts a mark behind all that do not come after it, among marks in order that follow what is no mark. -/
def placeMark (mark : Nat) : List Nat → List Nat
  | [] => [mark]
  | last :: earlier =>
    if combiningClass mark < combiningClass last then last :: placeMark mark earlier
    else mark :: last :: earlier

/-- Code points with each run of marks in the order of their classes. -/
def inOrder (codes : List Nat) : List Nat :=
  (codes.foldl
    (fun done code => if combiningClass code = 0 then code :: done else placeMark code done)
    []).reverse

/-- Puts code points together. `start?` is the last that is no mark, `marks` are the marks behind it that
stay, and `last` is the class of the last of these. A mark is kept off by one that is not below it. -/
def putTogether (start? : Option Nat) (marks : List Nat) (last : Nat) : List Nat → List Nat
  | [] => start?.toList ++ marks
  | code :: rest =>
    let number := combiningClass code
    match start? with
    | none =>
      if number = 0 then putTogether (some code) [] 0 rest else code :: putTogether none [] 0 rest
    | some start =>
      match if marks.isEmpty || last < number then whole? start code else none with
      | some whole => putTogether (some whole) marks last rest
      | none =>
        if number = 0 then start :: (marks ++ putTogether (some code) [] 0 rest)
        else putTogether (some start) (marks ++ [code]) number rest

/-- How often a code point can be taken apart at most. -/
def mostParts : Nat := 3

/-- Code points taken apart, brought into order and put together again. -/
def composed (codes : List Nat) : List Nat :=
  putTogether none [] 0 (inOrder (codes.flatMap (takenApart mostParts)))

/-- Whether a text is composed. -/
def isComposed (codes : List Nat) : Bool :=
  !codes.any (inRanges replacedRanges) && composed codes == codes

end Workflow.Text
