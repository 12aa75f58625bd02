import DeployService.Text.Category

/-!
# Composed characters

A character with a mark can be one character or two. `compose?` makes two characters one, and
`decompose` takes a character apart as far as possible; the order in which the table lists the
compositions makes one pass over it enough. Hangul syllables are composed of their letters by rule.
The characters that are taken apart but never composed again are not listed.
-/

namespace DeployService.Text

/-- A composed character. -/
structure Composition where
  /-- The character that it begins with. -/
  first : Char
  /-- The character that is added to it. -/
  second : Char
  /-- Both as one character. -/
  whole : Char
  deriving DecidableEq, Repr

/-- The compositions with one second character each: its code point, and in turn a first character
and the whole. A first character that is composed itself is the whole of a later one. -/
def compositionTable : List (Nat × String) :=
  [(0x345, "ἂᾂἃᾃἄᾄἅᾅἆᾆἇᾇἊᾊἋᾋἌᾌἍᾍἎᾎἏᾏἢᾒἣᾓἤᾔἥᾕἦᾖἧᾗἪᾚἫᾛἬᾜἭᾝἮᾞἯᾟὢᾢὣᾣὤᾤὥᾥὦᾦὧᾧὪᾪὫᾫὬᾬὭᾭὮᾮὯᾯ"),
    (0x300, "ÂẦÊỀÔỒÜǛâầêềôồüǜĂẰăằĒḔēḕŌṐōṑƠỜơờƯỪưừϊῒϋῢἀἂἁἃἈἊἉἋἐἒἑἓἘἚἙἛἠἢἡἣἨἪἩἫἰἲἱἳἸἺἹἻὀὂὁὃὈὊὉὋ"),
    (0x300, "ὐὒὑὓὙὛὠὢὡὣὨὪὩὫ"),
    (0x301, "ÂẤÅǺÇḈÊẾÏḮÔỐÕṌÜǗâấåǻçḉêếïḯôốõṍüǘĂẮăắĒḖēḗŌṒōṓŨṸũṹƠỚơớƯỨưứϊΐϋΰἀἄἁἅἈἌἉἍἐἔἑἕἘἜἙἝἠἤἡἥ"),
    (0x301, "ἨἬἩἭἰἴἱἵἸἼἹἽὀὄὁὅὈὌὉὍὐὔὑὕὙὝὠὤὡὥὨὬὩὭ"), (0x302, "ẠẬạậẸỆẹệỌỘọộ"),
    (0x303, "ÂẪÊỄÔỖâẫêễôỗĂẴăẵƠỠơỡƯỮưữ"), (0x304, "ÄǞÕȬÖȪÜǕäǟõȭöȫüǖǪǬǫǭȦǠȧǡȮȰȯȱḶḸḷḹṚṜṛṝ"),
    (0x306, "ȨḜȩḝẠẶạặ"), (0x307, "ŚṤśṥŠṦšṧṢṨṣṩ"), (0x308, "ÕṎõṏŪṺūṻ"),
    (0x309, "ÂẨÊỂÔỔâẩêểôổĂẲăẳƠỞơởƯỬưử"), (0x30C, "ÜǙüǚ"), (0x323, "ƠỢơợƯỰưự"),
    (0x342, "ϊῗϋῧἀἆἁἇἈἎἉἏἠἦἡἧἨἮἩἯἰἶἱἷἸἾἹἿὐὖὑὗὙὟὠὦὡὧὨὮὩὯ"),
    (0x345, "άᾴήῄώῴἀᾀἁᾁἈᾈἉᾉἠᾐἡᾑἨᾘἩᾙὠᾠὡᾡὨᾨὩᾩὰᾲὴῂὼῲᾶᾷῆῇῶῷ"), (0xCD5, "\u0cca\u0ccb"),
    (0xDCA, "\u0ddc\u0ddd"), (0x1611F, "𖄡𖄦𖄢𖄧"), (0x16120, "𖄡𖄨"), (0x16D67, "𖵩𖵪"),
    (0x300, "AÀEÈIÌNǸOÒUÙWẀYỲaàeèiìnǹoòuùwẁyỳ¨῭ΑᾺΕῈΗῊΙῚΟῸΥῪΩῺαὰεὲηὴιὶοὸυὺωὼЕЀИЍеѐиѝ᾿῍῾῝"),
    (0x301, "AÁCĆEÉGǴIÍKḰLĹMḾNŃOÓPṔRŔSŚUÚWẂYÝZŹaácćeégǵiíkḱlĺmḿnńoópṕrŕsśuúwẃyýzź¨΅ÆǼØǾæǽøǿΑΆ"),
    (0x301, "ΕΈΗΉΙΊΟΌΥΎΩΏαάεέηήιίοόυύωώϒϓГЃКЌгѓкќ᾿῎῾῞"),
    (0x302, "AÂCĈEÊGĜHĤIÎJĴOÔSŜUÛWŴYŶZẐaâcĉeêgĝhĥiîjĵoôsŝuûwŵyŷzẑ"),
    (0x303, "AÃEẼIĨNÑOÕUŨVṼYỸaãeẽiĩnñoõuũvṽyỹ"),
    (0x304, "AĀEĒGḠIĪOŌUŪYȲaāeēgḡiīoōuūyȳÆǢæǣΑᾹΙῙΥῩαᾱιῑυῡИӢУӮиӣуӯ"),
    (0x306, "AĂEĔGĞIĬOŎUŬaăeĕgğiĭoŏuŭΑᾸΙῘΥῨαᾰιῐυῠАӐЕӖЖӁИЙУЎаӑеӗжӂийуў"),
    (0x307, "AȦBḂCĊDḊEĖFḞGĠHḢIİMṀNṄOȮPṖRṘSṠTṪWẆXẊYẎZŻaȧbḃcċdḋeėfḟgġhḣmṁnṅoȯpṗrṙsṡtṫwẇxẋyẏzżſẛ"),
    (0x307, "𐗒𐗉𐗚𐗤"),
    (0x308, "AÄEËHḦIÏOÖUÜWẄXẌYŸaäeëhḧiïoötẗuüwẅxẍyÿΙΪΥΫιϊυϋϒϔІЇАӒЕЁЖӜЗӞИӤОӦУӰЧӴЫӸЭӬаӓеёжӝзӟиӥ"),
    (0x308, "оӧуӱчӵыӹэӭіїӘӚәӛӨӪөӫ"), (0x309, "AẢEẺIỈOỎUỦYỶaảeẻiỉoỏuủyỷ"), (0x30A, "AÅUŮaåuůwẘyẙ"),
    (0x30B, "OŐUŰoőuűУӲуӳ"),
    (0x30C, "AǍCČDĎEĚGǦHȞIǏKǨLĽNŇOǑRŘSŠTŤUǓZŽaǎcčdďeěgǧhȟiǐjǰkǩlľnňoǒrřsštťuǔzžƷǮʒǯ"),
    (0x30F, "AȀEȄIȈOȌRȐUȔaȁeȅiȉoȍrȑuȕѴѶѵѷ"), (0x311, "AȂEȆIȊOȎRȒUȖaȃeȇiȋoȏrȓuȗ"),
    (0x313, "ΑἈΕἘΗἨΙἸΟὈΩὨαἀεἐηἠιἰοὀρῤυὐωὠ"), (0x314, "ΑἉΕἙΗἩΙἹΟὉΡῬΥὙΩὩαἁεἑηἡιἱοὁρῥυὑωὡ"),
    (0x31B, "OƠUƯoơuư"),
    (0x323, "AẠBḄDḌEẸHḤIỊKḲLḶMṂNṆOỌRṚSṢTṬUỤVṾWẈYỴZẒaạbḅdḍeẹhḥiịkḳlḷmṃnṇoọrṛsṣtṭuụvṿwẉyỵzẓ"),
    (0x324, "UṲuṳ"), (0x325, "AḀaḁ"), (0x326, "SȘTȚsștț"),
    (0x327, "CÇDḐEȨGĢHḨKĶLĻNŅRŖSŞTŢcçdḑeȩgģhḩkķlļnņrŗsştţ"), (0x328, "AĄEĘIĮOǪUŲaąeęiįoǫuų"),
    (0x32D, "DḒEḘLḼNṊTṰUṶdḓeḙlḽnṋtṱuṷ"), (0x32E, "HḪhḫ"), (0x330, "EḚIḬUṴeḛiḭuṵ"),
    (0x331, "BḆDḎKḴLḺNṈRṞTṮZẔbḇdḏhẖkḵlḻnṉrṟtṯzẕ"),
    (0x338, "<≮=≠>≯←↚→↛↔↮⇐⇍⇒⇏⇔⇎∃∄∈∉∋∌∣∤∥∦∼≁≃≄≅≇≈≉≍≭≡≢≤≰≥≱≲≴≳≵≶≸≷≹≺⊀≻⊁≼⋠≽⋡⊂⊄⊃⊅⊆⊈⊇⊉⊑⋢⊒⋣⊢⊬⊨⊭⊩⊮⊫⊯"),
    (0x338, "⊲⋪⊳⋫⊴⋬⊵⋭"), (0x342, "¨῁αᾶηῆιῖυῦωῶ᾿῏῾῟"), (0x345, "ΑᾼΗῌΩῼαᾳηῃωῳ"),
    (0x653, "\u0627\u0622"),
    (0x654, "\u0627\u0623\u0648\u0624\u064a\u0626\u06c1\u06c2\u06d2\u06d3\u06d5\u06c0"),
    (0x655, "\u0627\u0625"), (0x93C, "नऩरऱळऴ"), (0x9BE, "\u09c7\u09cb"), (0x9D7, "\u09c7\u09cc"),
    (0xB3E, "\u0b47\u0b4b"), (0xB56, "\u0b47\u0b48"), (0xB57, "\u0b47\u0b4c"),
    (0xBBE, "\u0bc6\u0bca\u0bc7\u0bcb"), (0xBD7, "ஒஔ\u0bc6\u0bcc"), (0xC56, "\u0c46\u0c48"),
    (0xCC2, "\u0cc6\u0cca"), (0xCD5, "\u0cbf\u0cc0\u0cc6\u0cc7"), (0xCD6, "\u0cc6\u0cc8"),
    (0xD3E, "\u0d46\u0d4a\u0d47\u0d4b"), (0xD57, "\u0d46\u0d4c"), (0xDCA, "\u0dd9\u0dda"),
    (0xDCF, "\u0dd9\u0ddc"), (0xDDF, "\u0dd9\u0dde"), (0x102E, "ဥဦ"),
    (0x1B35, "ᬅᬆᬇᬈᬉᬊᬋᬌᬍᬎᬑᬒ\u1b3a\u1b3b\u1b3c\u1b3d\u1b3e\u1b40\u1b3f\u1b41\u1b42\u1b43"),
    (0x3099, "うゔかがきぎくぐけげこごさざしじすずせぜそぞただちぢつづてでとどはばひびふぶへべほぼゝゞウヴカガキギクグケゲコゴサザシジスズセゼソゾタダチヂツヅテデトドハバヒビ"),
    (0x3099, "フブヘベホボワヷヰヸヱヹヲヺヽヾ"), (0x309A, "はぱひぴふぷへぺほぽハパヒピフプヘペホポ"), (0x110BA, "𑂙𑂚𑂛𑂜𑂥𑂫"),
    (0x11127, "𑄱𑄮𑄲𑄯"), (0x1133E, "𑍇𑍋"), (0x11357, "𑍇𑍌"), (0x113B8, "𑏅𑎸"), (0x113BB, "𑎄𑎅"),
    (0x113C2, "𑎋𑎎𑏅𑏂"), (0x113C9, "𑎂𑎃𑎐𑎑𑏅𑏉"), (0x114B0, "𑒹𑒼"), (0x114BA, "𑒹𑒻"), (0x114BD, "𑒹𑒾"),
    (0x115AF, "𑖸𑖺𑖹𑖻"), (0x11930, "𑤵𑤸"), (0x1611E, "𖄡𖄞"), (0x1611F, "𖄦𖄩𖄤"), (0x16120, "𖄨"),
    (0x16129, "𖄡𖄩"), (0x16D67, "𖵣𖵪𖵨")]

/-- The compositions with a second character, read from an entry of the table. -/
def compositionsWith (second : Char) : List Char → List Composition
  | first :: whole :: rest => ⟨first, second, whole⟩ :: compositionsWith second rest
  | _ => []

/-- The compositions. The first character of each one is the whole of later ones only. -/
def compositions : List Composition :=
  compositionTable.flatMap fun (second, text) => compositionsWith (Char.ofNat second) text.toList

/-! ## Hangul syllables -/

/-- The syllable of two letters, or of a syllable without a final consonant and such a consonant.
There are 19 initial consonants, 21 vowels and 27 final consonants. -/
def composeSyllable? (first second : Char) : Option Char :=
  let a := first.toNat
  let b := second.toNat
  if 0x1100 ≤ a ∧ a < 0x1113 ∧ 0x1161 ≤ b ∧ b < 0x1176 then
    some (Char.ofNat (0xAC00 + ((a - 0x1100) * 21 + (b - 0x1161)) * 28))
  else if 0xAC00 ≤ a ∧ a < 0xD7A4 ∧ (a - 0xAC00) % 28 = 0 ∧ 0x11A8 ≤ b ∧ b < 0x11C3 then
    some (Char.ofNat (a + (b - 0x11A7)))
  else none

/-- The letters of a syllable. -/
def decomposeSyllable? (c : Char) : Option (List Char) :=
  let n := c.toNat
  if 0xAC00 ≤ n ∧ n < 0xD7A4 then
    let i := n - 0xAC00
    let letters := [Char.ofNat (0x1100 + i / 588), Char.ofNat (0x1161 + i / 28 % 21)]
    some (if i % 28 = 0 then letters else letters ++ [Char.ofNat (0x11A7 + i % 28)])
  else none

/-! ## Composing and taking apart -/

/-- Two characters as one. No second character comes before `0x300`. -/
def compose? (first second : Char) : Option Char :=
  if second.toNat < 0x300 then none
  else
    (composeSyllable? first second).or
      ((compositions.find? fun p => p.first = first && p.second = second).map Composition.whole)

/-- Takes a character apart by the compositions in turn. -/
def decomposeBy : List Composition → Char → List Char
  | [], c => [c]
  | p :: rest, c =>
    if c = p.whole then decomposeBy rest p.first ++ [p.second] else decomposeBy rest c

/-- The characters that a character is composed of. -/
def decompose (c : Char) : List Char :=
  if isAscii c then [c] else (decomposeSyllable? c).getD (decomposeBy compositions c)

end DeployService.Text
