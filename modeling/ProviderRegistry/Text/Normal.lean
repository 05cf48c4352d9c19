import ProviderRegistry.Text.Split

/-!
# The normal form of identifiers

The Unicode standard (version 14, annex 15) knows one identifier in several spellings. In its
**normal form** (KC) every character is taken apart first, then the marks in a row are put in the
order of their classes, and then what stands for a first character and a mark takes the place of
both. A syllable of Hangul is taken apart and put together by its number; the rest is tabulated,
for the characters of identifiers alone.
-/

namespace ProviderRegistry.Text.Normal

/-- Consecutive characters from a number on, given by what they are taken apart to, with a space
between two. -/
abbrev Runs := List (Nat × String)

/-- The characters of some runs with what they are taken apart to. -/
def Runs.entries (runs : Runs) : List (Char × List Char) :=
  runs.flatMap fun (first, texts) =>
    (split ' ' texts.toList).zipIdx.map fun (parts, n) => (Char.ofNat (first + n), parts)

/-- The characters that are put together again. -/
def composites : Runs :=
  [(0xc0, "À Á Â Ã Ä Å"), (0xc7, "Ç È É Ê Ë Ì Í Î Ï"),
    (0xd1, "Ñ Ò Ó Ô Õ Ö"), (0xd9, "Ù Ú Û Ü Ý"), (0xe0, "à á â ã ä å"),
    (0xe7, "ç è é ê ë ì í î ï"), (0xf1, "ñ ò ó ô õ ö"), (0xf9, "ù ú û ü ý"),
    (0xff, "ÿ Ā ā Ă ă Ą ą Ć ć Ĉ ĉ Ċ ċ Č č Ď ď"),
    (0x112, "Ē ē Ĕ ĕ Ė ė Ę ę Ě ě Ĝ ĝ Ğ ğ Ġ ġ Ģ ģ Ĥ ĥ"),
    (0x128, "Ĩ ĩ Ī ī Ĭ ĭ Į į İ"), (0x134, "Ĵ ĵ Ķ ķ"), (0x139, "Ĺ ĺ Ļ ļ Ľ ľ"),
    (0x143, "Ń ń Ņ ņ Ň ň"), (0x14c, "Ō ō Ŏ ŏ Ő ő"),
    (0x154, "Ŕ ŕ Ŗ ŗ Ř ř Ś ś Ŝ ŝ Ş ş Š š Ţ ţ Ť ť"),
    (0x168, "Ũ ũ Ū ū Ŭ ŭ Ů ů Ű ű Ų ų Ŵ ŵ Ŷ ŷ Ÿ Ź ź Ż ż Ž ž"),
    (0x1a0, "Ơ ơ"), (0x1af, "Ư ư"),
    (0x1cd, "Ǎ ǎ Ǐ ǐ Ǒ ǒ Ǔ ǔ Ǖ ǖ Ǘ ǘ Ǚ ǚ Ǜ ǜ"),
    (0x1de, "Ǟ ǟ Ǡ ǡ Ǣ ǣ"), (0x1e6, "Ǧ ǧ Ǩ ǩ Ǫ ǫ Ǭ ǭ Ǯ ǯ ǰ"),
    (0x1f4, "Ǵ ǵ"),
    (0x1f8, "Ǹ ǹ Ǻ ǻ Ǽ ǽ Ǿ ǿ Ȁ ȁ Ȃ ȃ Ȅ ȅ Ȇ ȇ Ȉ ȉ Ȋ ȋ Ȍ ȍ Ȏ ȏ Ȑ"),
    (0x211, "ȑ Ȓ ȓ Ȕ ȕ Ȗ ȗ Ș ș Ț ț"), (0x21e, "Ȟ ȟ"),
    (0x226, "Ȧ ȧ Ȩ ȩ Ȫ ȫ Ȭ ȭ Ȯ ȯ Ȱ ȱ Ȳ ȳ"), (0x386, "Ά"),
    (0x388, "Έ Ή Ί"), (0x38c, "Ό"), (0x38e, "Ύ Ώ ΐ"), (0x3aa, "Ϊ Ϋ ά έ ή ί ΰ"),
    (0x3ca, "ϊ ϋ ό ύ ώ"), (0x400, "Ѐ Ё"), (0x403, "Ѓ"), (0x407, "Ї"),
    (0x40c, "Ќ Ѝ Ў"), (0x419, "Й"), (0x439, "й"), (0x450, "ѐ ё"), (0x453, "ѓ"),
    (0x457, "ї"), (0x45c, "ќ ѝ ў"), (0x476, "Ѷ ѷ"), (0x4c1, "Ӂ ӂ"),
    (0x4d0, "Ӑ ӑ Ӓ ӓ"), (0x4d6, "Ӗ ӗ"), (0x4da, "Ӛ ӛ Ӝ ӝ Ӟ ӟ"),
    (0x4e2, "Ӣ ӣ Ӥ ӥ Ӧ ӧ"), (0x4ea, "Ӫ ӫ Ӭ ӭ Ӯ ӯ Ӱ ӱ Ӳ ӳ Ӵ ӵ"),
    (0x4f8, "Ӹ ӹ"), (0x622, "آ أ ؤ إ ئ"), (0x6c0, "ۀ"), (0x6c2, "ۂ"), (0x6d3, "ۓ"),
    (0x929, "ऩ"), (0x931, "ऱ"), (0x934, "ऴ"), (0x9cb, "ো ৌ"), (0xb48, "ୈ"),
    (0xb4b, "ୋ ୌ"), (0xb94, "ஔ"), (0xbca, "ொ ோ ௌ"), (0xc48, "ై"), (0xcc0, "ೀ"),
    (0xcc7, "ೇ ೈ"), (0xcca, "ೊ ೋ"), (0xd4a, "ൊ ോ ൌ"), (0xdda, "ේ"), (0xddc, "ො ෝ ෞ"),
    (0x1026, "ဦ"), (0x1b06, "ᬆ"), (0x1b08, "ᬈ"), (0x1b0a, "ᬊ"), (0x1b0c, "ᬌ"),
    (0x1b0e, "ᬎ"), (0x1b12, "ᬒ"), (0x1b3b, "ᬻ"), (0x1b3d, "ᬽ"), (0x1b40, "ᭀ ᭁ"),
    (0x1b43, "ᭃ"),
    (0x1e00, "Ḁ ḁ Ḃ ḃ Ḅ ḅ Ḇ ḇ Ḉ ḉ Ḋ ḋ Ḍ ḍ Ḏ ḏ Ḑ ḑ Ḓ ḓ Ḕ ḕ Ḗ"),
    (0x1e17, "ḗ Ḙ ḙ Ḛ ḛ Ḝ ḝ Ḟ ḟ Ḡ ḡ Ḣ ḣ Ḥ ḥ Ḧ ḧ Ḩ ḩ Ḫ ḫ Ḭ ḭ Ḯ"),
    (0x1e2f, "ḯ Ḱ ḱ Ḳ ḳ Ḵ ḵ Ḷ ḷ Ḹ ḹ Ḻ ḻ Ḽ ḽ Ḿ ḿ Ṁ ṁ Ṃ ṃ Ṅ ṅ Ṇ"),
    (0x1e47, "ṇ Ṉ ṉ Ṋ ṋ Ṍ ṍ Ṏ ṏ Ṑ ṑ Ṓ ṓ Ṕ ṕ Ṗ ṗ Ṙ ṙ Ṛ ṛ Ṝ"),
    (0x1e5d, "ṝ Ṟ ṟ Ṡ ṡ Ṣ ṣ Ṥ ṥ Ṧ ṧ Ṩ ṩ Ṫ ṫ Ṭ ṭ Ṯ ṯ Ṱ ṱ Ṳ ṳ"),
    (0x1e74, "Ṵ ṵ Ṷ ṷ Ṹ ṹ Ṻ ṻ Ṽ ṽ Ṿ ṿ Ẁ ẁ Ẃ ẃ Ẅ ẅ Ẇ ẇ Ẉ ẉ Ẋ ẋ"),
    (0x1e8c, "Ẍ ẍ Ẏ ẏ Ẑ ẑ Ẓ ẓ Ẕ ẕ ẖ ẗ ẘ ẙ"),
    (0x1ea0, "Ạ ạ Ả ả Ấ ấ Ầ ầ Ẩ ẩ Ẫ ẫ Ậ ậ Ắ ắ Ằ ằ Ẳ ẳ"),
    (0x1eb4, "Ẵ ẵ Ặ ặ Ẹ ẹ Ẻ ẻ Ẽ ẽ Ế ế Ề ề Ể ể Ễ ễ Ệ ệ Ỉ"),
    (0x1ec9, "ỉ Ị ị Ọ ọ Ỏ ỏ Ố ố Ồ ồ Ổ ổ Ỗ ỗ Ộ ộ Ớ ớ Ờ ờ"),
    (0x1ede, "Ở ở Ỡ ỡ Ợ ợ Ụ ụ Ủ ủ Ứ ứ Ừ ừ Ử ử Ữ ữ Ự ự"),
    (0x1ef2, "Ỳ ỳ Ỵ ỵ Ỷ ỷ Ỹ ỹ"),
    (0x1f00, "ἀ ἁ ἂ ἃ ἄ ἅ ἆ ἇ Ἀ Ἁ Ἂ Ἃ Ἄ Ἅ Ἆ Ἇ ἐ ἑ ἒ ἓ"),
    (0x1f14, "ἔ ἕ"), (0x1f18, "Ἐ Ἑ Ἒ Ἓ Ἔ Ἕ"),
    (0x1f20, "ἠ ἡ ἢ ἣ ἤ ἥ ἦ ἧ Ἠ Ἡ Ἢ Ἣ Ἤ Ἥ Ἦ Ἧ ἰ ἱ ἲ ἳ"),
    (0x1f34, "ἴ ἵ ἶ ἷ Ἰ Ἱ Ἲ Ἳ Ἴ Ἵ Ἶ Ἷ ὀ ὁ ὂ ὃ ὄ ὅ"),
    (0x1f48, "Ὀ Ὁ Ὂ Ὃ Ὄ Ὅ"), (0x1f50, "ὐ ὑ ὒ ὓ ὔ ὕ ὖ ὗ"), (0x1f59, "Ὑ"),
    (0x1f5b, "Ὓ"), (0x1f5d, "Ὕ"),
    (0x1f5f, "Ὗ ὠ ὡ ὢ ὣ ὤ ὥ ὦ ὧ Ὠ Ὡ Ὢ Ὣ Ὤ Ὥ Ὦ Ὧ ὰ"),
    (0x1f72, "ὲ"), (0x1f74, "ὴ"), (0x1f76, "ὶ"), (0x1f78, "ὸ"), (0x1f7a, "ὺ"),
    (0x1f7c, "ὼ"),
    (0x1f80, "ᾀ ᾁ ᾂ ᾃ ᾄ ᾅ ᾆ ᾇ ᾈ ᾉ ᾊ ᾋ ᾌ ᾍ ᾎ ᾏ"),
    (0x1f90, "ᾐ ᾑ ᾒ ᾓ ᾔ ᾕ ᾖ ᾗ ᾘ ᾙ ᾚ ᾛ ᾜ ᾝ ᾞ ᾟ"),
    (0x1fa0, "ᾠ ᾡ ᾢ ᾣ ᾤ ᾥ ᾦ ᾧ ᾨ ᾩ ᾪ ᾫ ᾬ ᾭ ᾮ ᾯ"),
    (0x1fb0, "ᾰ ᾱ ᾲ ᾳ ᾴ"), (0x1fb6, "ᾶ ᾷ Ᾰ Ᾱ Ὰ"), (0x1fbc, "ᾼ"),
    (0x1fc2, "ῂ ῃ ῄ"), (0x1fc6, "ῆ ῇ Ὲ"), (0x1fca, "Ὴ"), (0x1fcc, "ῌ"),
    (0x1fd0, "ῐ ῑ ῒ"), (0x1fd6, "ῖ ῗ Ῐ Ῑ Ὶ"), (0x1fe0, "ῠ ῡ ῢ"),
    (0x1fe4, "ῤ ῥ ῦ ῧ Ῠ Ῡ Ὺ"), (0x1fec, "Ῥ"), (0x1ff2, "ῲ ῳ ῴ"),
    (0x1ff6, "ῶ ῷ Ὸ"), (0x1ffa, "Ὼ"), (0x1ffc, "ῼ"), (0x304c, "が"), (0x304e, "ぎ"),
    (0x3050, "ぐ"), (0x3052, "げ"), (0x3054, "ご"), (0x3056, "ざ"), (0x3058, "じ"),
    (0x305a, "ず"), (0x305c, "ぜ"), (0x305e, "ぞ"), (0x3060, "だ"), (0x3062, "ぢ"),
    (0x3065, "づ"), (0x3067, "で"), (0x3069, "ど"), (0x3070, "ば ぱ"), (0x3073, "び ぴ"),
    (0x3076, "ぶ ぷ"), (0x3079, "べ ぺ"), (0x307c, "ぼ ぽ"), (0x3094, "ゔ"), (0x309e, "ゞ"),
    (0x30ac, "ガ"), (0x30ae, "ギ"), (0x30b0, "グ"), (0x30b2, "ゲ"), (0x30b4, "ゴ"),
    (0x30b6, "ザ"), (0x30b8, "ジ"), (0x30ba, "ズ"), (0x30bc, "ゼ"), (0x30be, "ゾ"),
    (0x30c0, "ダ"), (0x30c2, "ヂ"), (0x30c5, "ヅ"), (0x30c7, "デ"), (0x30c9, "ド"),
    (0x30d0, "バ パ"), (0x30d3, "ビ ピ"), (0x30d6, "ブ プ"), (0x30d9, "ベ ペ"), (0x30dc, "ボ ポ"),
    (0x30f4, "ヴ"), (0x30f7, "ヷ ヸ ヹ ヺ"), (0x30fe, "ヾ"), (0x1109a, "𑂚"), (0x1109c, "𑂜"),
    (0x110ab, "𑂫"), (0x1112e, "𑄮 𑄯"), (0x1134b, "𑍋 𑍌"), (0x114bb, "𑒻 𑒼"), (0x114be, "𑒾"),
    (0x115ba, "𑖺 𑖻"), (0x11938, "𑤸")]

/-- The characters that are taken apart for good. -/
def others : Runs :=
  [(0xaa, "a"), (0xb5, "μ"), (0xba, "o"), (0x132, "IJ ij"), (0x13f, "L· l·"), (0x149, "ʼn"),
    (0x17f, "s"), (0x1c4, "DŽ Dž dž LJ Lj lj NJ Nj nj"), (0x1f1, "DZ Dz dz"),
    (0x2b0, "h ɦ j r ɹ ɻ ʁ w y"), (0x2e0, "ɣ l s x ʕ"), (0x340, "̀ ́"), (0x343, "̓ ̈́"),
    (0x374, "ʹ"), (0x387, "·"), (0x3d0, "β θ Υ Ύ Ϋ φ π"), (0x3f0, "κ ρ ς"), (0x3f4, "Θ ε"),
    (0x3f9, "Σ"), (0x587, "եւ"), (0x675, "اٴ وٴ ۇٴ يٴ"), (0x958, "क़ ख़ ग़ ज़ ड़ ढ़ फ़ य़"),
    (0x9dc, "ড় ঢ়"), (0x9df, "য়"), (0xa33, "ਲ਼"), (0xa36, "ਸ਼"), (0xa59, "ਖ਼ ਗ਼ ਜ਼"),
    (0xa5e, "ਫ਼"), (0xb5c, "ଡ଼ ଢ଼"), (0xe33, "ํา"), (0xeb3, "ໍາ"), (0xedc, "ຫນ ຫມ"),
    (0xf43, "གྷ"), (0xf4d, "ཌྷ"), (0xf52, "དྷ"), (0xf57, "བྷ"), (0xf5c, "ཛྷ"), (0xf69, "ཀྵ"),
    (0xf73, "ཱི"), (0xf75, "ཱུ ྲྀ ྲཱྀ ླྀ ླཱྀ"), (0xf81, "ཱྀ"), (0xf93, "ྒྷ"), (0xf9d, "ྜྷ"),
    (0xfa2, "ྡྷ"), (0xfa7, "ྦྷ"), (0xfac, "ྫྷ"), (0xfb9, "ྐྵ"), (0x10fc, "ნ"), (0x1d2c, "A Æ B"),
    (0x1d30, "D E Ǝ G H I J K L M N"), (0x1d3c, "O Ȣ P R T U W a ɐ ɑ ᴂ b d e ə ɛ ɜ g"),
    (0x1d4f, "k m ŋ o ɔ ᴖ ᴗ p t u ᴝ ɯ v ᴥ β γ δ φ χ i r u v β γ ρ φ χ"), (0x1d78, "н"),
    (0x1d9b, "ɒ c ɕ ð ɜ f ɟ ɡ ɥ ɨ ɩ ɪ ᵻ ʝ ɭ ᶅ ʟ ɱ ɰ ɲ ɳ ɴ ɵ ɸ ʂ ʃ ƫ ʉ ʊ ᴜ ʋ ʌ z ʐ ʑ ʒ θ"),
    (0x1e9a, "aʾ ṡ"), (0x1f71, "ά"), (0x1f73, "έ"), (0x1f75, "ή"), (0x1f77, "ί"),
    (0x1f79, "ό"), (0x1f7b, "ύ"), (0x1f7d, "ώ"), (0x1fbb, "Ά"), (0x1fbe, "ι"), (0x1fc9, "Έ"),
    (0x1fcb, "Ή"), (0x1fd3, "ΐ"), (0x1fdb, "Ί"), (0x1fe3, "ΰ"), (0x1feb, "Ύ"),
    (0x1ff9, "Ό"), (0x1ffb, "Ώ"), (0x2071, "i"), (0x207f, "n"),
    (0x2090, "a e o x ə h k l m n p s t"), (0x2102, "C"), (0x2107, "Ɛ"),
    (0x210a, "g H H H h ħ I I L l"), (0x2115, "N"), (0x2119, "P Q R R R"), (0x2124, "Z"),
    (0x2126, "Ω"), (0x2128, "Z"), (0x212a, "K Å B C"), (0x212f, "e E F"),
    (0x2133, "M o א ב ג ד i"), (0x213c, "π γ Γ Π"), (0x2145, "D d e i j"),
    (0x2160, "I II III IV V VI VII VIII IX X XI XII L C D M i ii iii iv v vi vii viii ix x"),
    (0x217a, "xi xii l c d m"), (0x2c7c, "j V"), (0x2d6f, "ⵡ"), (0x3038, "十 卄 卅"), (0x309f, "より"),
    (0x30ff, "コト"),
    (0x3131, "ᄀ ᄁ ᆪ ᄂ ᆬ ᆭ ᄃ ᄄ ᄅ ᆰ ᆱ ᆲ ᆳ ᆴ ᆵ ᄚ ᄆ ᄇ ᄈ ᄡ ᄉ ᄊ ᄋ ᄌ ᄍ ᄎ ᄏ ᄐ ᄑ ᄒ ᅡ ᅢ ᅣ ᅤ ᅥ ᅦ ᅧ ᅨ"),
    (0x3157, "ᅩ ᅪ ᅫ ᅬ ᅭ ᅮ ᅯ ᅰ ᅱ ᅲ ᅳ ᅴ ᅵ ᅠ ᄔ ᄕ ᇇ ᇈ ᇌ ᇎ ᇓ ᇗ ᇙ ᄜ ᇝ ᇟ ᄝ ᄞ ᄠ ᄢ ᄣ ᄧ ᄩ ᄫ ᄬ ᄭ ᄮ ᄯ"),
    (0x317d, "ᄲ ᄶ ᅀ ᅇ ᅌ ᇱ ᇲ ᅗ ᅘ ᅙ ᆄ ᆅ ᆈ ᆑ ᆒ ᆔ ᆞ ᆡ"), (0xa69c, "ъ ь"), (0xa770, "ꝯ"),
    (0xa7f2, "C F Q"), (0xa7f8, "Ħ œ"), (0xab5c, "ꜧ ꬷ ɫ ꭒ"), (0xab69, "ʍ"),
    (0xf900, "豈 更 車 賈 滑 串 句 龜 龜 契 金 喇 奈 懶 癩 羅 蘿 螺 裸 邏 樂 洛 烙 珞 落 酪 駱 亂 卵 欄 爛 蘭 鸞 嵐 濫 藍 襤 拉"),
    (0xf926, "臘 蠟 廊 朗 浪 狼 郎 來 冷 勞 擄 櫓 爐 盧 老 蘆 虜 路 露 魯 鷺 碌 祿 綠 菉 錄 鹿 論 壟 弄 籠 聾 牢 磊 賂 雷 壘 屢"),
    (0xf94c, "樓 淚 漏 累 縷 陋 勒 肋 凜 凌 稜 綾 菱 陵 讀 拏 樂 諾 丹 寧 怒 率 異 北 磻 便 復 不 泌 數 索 參 塞 省 葉 說 殺 辰"),
    (0xf972, "沈 拾 若 掠 略 亮 兩 凉 梁 糧 良 諒 量 勵 呂 女 廬 旅 濾 礪 閭 驪 麗 黎 力 曆 歷 轢 年 憐 戀 撚 漣 煉 璉 秊 練 聯"),
    (0xf998, "輦 蓮 連 鍊 列 劣 咽 烈 裂 說 廉 念 捻 殮 簾 獵 令 囹 寧 嶺 怜 玲 瑩 羚 聆 鈴 零 靈 領 例 禮 醴 隸 惡 了 僚 寮 尿"),
    (0xf9be, "料 樂 燎 療 蓼 遼 龍 暈 阮 劉 杻 柳 流 溜 琉 留 硫 紐 類 六 戮 陸 倫 崙 淪 輪 律 慄 栗 率 隆 利 吏 履 易 李 梨 泥"),
    (0xf9e4, "理 痢 罹 裏 裡 里 離 匿 溺 吝 燐 璘 藺 隣 鱗 麟 林 淋 臨 立 笠 粒 狀 炙 識 什 茶 刺 切 度 拓 糖 宅 洞 暴 輻 行 降"),
    (0xfa0a, "見 廓 兀 嗀"), (0xfa10, "塚"), (0xfa12, "晴"), (0xfa15, "凞 猪 益 礼 神 祥 福 靖 精 羽"),
    (0xfa20, "蘒"), (0xfa22, "諸"), (0xfa25, "逸 都"),
    (0xfa2a, "飯 飼 館 鶴 郞 隷 侮 僧 免 勉 勤 卑 喝 嘆 器 塀 墨 層 屮 悔 慨 憎 懲 敏 既 暑 梅 海 渚 漢 煮 爫 琢 碑 社 祉 祈 祐"),
    (0xfa50, "祖 祝 禍 禎 穀 突 節 練 縉 繁 署 者 臭 艹 艹 著 褐 視 謁 謹 賓 贈 辶 逸 難 響 頻 恵 𤋮 舘"),
    (0xfa70, "並 况 全 侀 充 冀 勇 勺 喝 啕 喙 嗢 塚 墳 奄 奔 婢 嬨 廒 廙 彩 徭 惘 慎 愈 憎 慠 懲 戴 揄 搜 摒 敖 晴 朗 望 杖 歹"),
    (0xfa96, "殺 流 滛 滋 漢 瀞 煮 瞧 爵 犯 猪 瑱 甆 画 瘝 瘟 益 盛 直 睊 着 磌 窱 節 类 絛 練 缾 者 荒 華 蝹 襁 覆 視 調 諸 請"),
    (0xfabc, "謁 諾 諭 謹 變 贈 輸 遲 醙 鉶 陼 難 靖 韛 響 頋 頻 鬒 龜 𢡊 𢡄 𣏕 㮝 䀘 䀹 𥉉 𥳐 𧻓 齃 龎"),
    (0xfb00, "ff fi fl ffi ffl st st"), (0xfb13, "մն մե մի վն մխ"), (0xfb1d, "יִ"),
    (0xfb1f, "ײַ ע א ד ה כ ל ם ר ת"), (0xfb2a, "שׁ שׂ שּׁ שּׂ אַ אָ אּ בּ גּ דּ הּ וּ זּ"),
    (0xfb38, "טּ יּ ךּ כּ לּ"), (0xfb3e, "מּ"), (0xfb40, "נּ סּ"), (0xfb43, "ףּ פּ"),
    (0xfb46, "צּ קּ רּ שּ תּ וֹ בֿ כֿ פֿ אל ٱ ٱ ٻ ٻ ٻ ٻ پ پ پ پ ڀ ڀ ڀ ڀ ٺ ٺ ٺ ٺ ٿ ٿ ٿ ٿ ٹ"),
    (0xfb67, "ٹ ٹ ٹ ڤ ڤ ڤ ڤ ڦ ڦ ڦ ڦ ڄ ڄ ڄ ڄ ڃ ڃ ڃ ڃ چ چ چ چ ڇ ڇ ڇ ڇ ڍ ڍ ڌ ڌ ڎ ڎ ڈ ڈ ژ ژ ڑ"),
    (0xfb8d, "ڑ ک ک ک ک گ گ گ گ ڳ ڳ ڳ ڳ ڱ ڱ ڱ ڱ ں ں ڻ ڻ ڻ ڻ ۀ ۀ ہ ہ ہ ہ ھ ھ ھ ھ ے ے ۓ"),
    (0xfbb1, "ۓ"),
    (0xfbd3, "ڭ ڭ ڭ ڭ ۇ ۇ ۆ ۆ ۈ ۈ ۇٴ ۋ ۋ ۅ ۅ ۉ ۉ ې ې ې ې ى ى ئا ئا ئە ئە ئو ئو ئۇ"),
    (0xfbf1, "ئۇ ئۆ ئۆ ئۈ ئۈ ئې ئې ئې ئى ئى ئى ی ی ی ی ئج ئح ئم ئى ئي بج"),
    (0xfc06, "بح بخ بم بى بي تج تح تخ تم تى تي ثج ثم ثى ثي جح جم حج حم خج خح خم سج سح سخ"),
    (0xfc1f, "سم صح صم ضج ضح ضخ ضم طح طم ظم عج عم غج غم فج فح فخ فم فى في قح قم قى قي كا"),
    (0xfc38, "كج كح كخ كل كم كى كي لج لح لخ لم لى لي مج مح مخ مم مى مي نج نح نخ نم نى ني"),
    (0xfc51, "هج هم هى هي يج يح يخ يم يى يي ذٰ رٰ ىٰ"),
    (0xfc64, "ئر ئز ئم ئن ئى ئي بر بز بم بن بى بي تر تز تم تن تى تي ثر ثز ثم ثن ثى"),
    (0xfc7b, "ثي فى في قى قي كا كل كم كى كي لم لى لي ما مم نر نز نم نن نى ني ىٰ ير يز يم"),
    (0xfc94, "ين يى يي ئج ئح ئخ ئم ئه بج بح بخ بم به تج تح تخ تم ته ثم جح جم حج حم خج"),
    (0xfcac, "خم سج سح سخ سم صح صخ صم ضج ضح ضخ ضم طح ظم عج عم غج غم فج فح فخ فم قح قم كج"),
    (0xfcc5, "كح كخ كل كم لج لح لخ لم له مج مح مخ مم نج نح نخ نم نه هج هم هٰ يج يح يخ يم"),
    (0xfcde, "يه ئم ئه بم به تم ته ثم ثه سم سه شم شه كل كم لم نم نه يم يه ـَّ ـُّ ـِّ طى"),
    (0xfcf6, "طي عى عي غى غي سى سي شى شي حى حي جى جي خى خي صى صي ضى ضي شج شح شخ شم شر سر"),
    (0xfd0f, "صر ضر طى طي عى عي غى غي سى سي شى شي حى حي جى جي خى خي صى صي ضى ضي شج شح شخ"),
    (0xfd28, "شم شر سر صر ضر شج شح شخ شم سه شه طم سج سح سخ شج شح شخ طم ظم اً اً"),
    (0xfd50, "تجم تحج تحج تحم تخم تمج تمح تمخ جمح جمح حمي حمى سحج سجح سجى سمح سمح سمج سمم"),
    (0xfd63, "سمم صحح صحح صمم شحم شحم شجي شمخ شمخ شمم شمم ضحى ضخم ضخم طمح طمح طمم طمي عجم"),
    (0xfd76, "عمم عمم عمى غمم غمي غمى فخم فخم قمح قمم لحم لحي لحى لجج لجج لخم لخم لمح لمح"),
    (0xfd89, "محج محم محي مجح مجم مخج مخم"),
    (0xfd92, "مجخ همج همم نحم نحى نجم نجم نجى نمي نمى يمم يمم بخي تجي تجى تخي تخى تمي تمى"),
    (0xfda5, "جمي جحى جمى سخى صحي شحي ضحي لجي لمي يحي يجي يمي ممي قمي نحي قمح لحم عمي كمي"),
    (0xfdb8, "نجح مخي لجم كمم لجم نجح جحي حجي مجي فمي بحي كمم عجم صمم سخي نجي"),
    (0xfdf0, "صلے قلے الله اكبر محمد صلعم رسول عليه وسلم صلى"), (0xfe33, "_ _"),
    (0xfe4d, "_ _ _"), (0xfe71, "ـً"), (0xfe77, "ـَ"), (0xfe79, "ـُ"), (0xfe7b, "ـِ"),
    (0xfe7d, "ـّ"),
    (0xfe7f, "ـْ ء آ آ أ أ ؤ ؤ إ إ ئ ئ ئ ئ ا ا ب ب ب ب ة ة ت ت ت ت ث ث ث ث ج ج"),
    (0xfe9f, "ج ج ح ح ح ح خ خ خ خ د د ذ ذ ر ر ز ز س س س س ش ش ش ش ص ص ص ص ض ض ض ض ط ط ط ط"),
    (0xfec5, "ظ ظ ظ ظ ع ع ع ع غ غ غ غ ف ف ف ف ق ق ق ق ك ك ك ك ل ل ل ل م م م م ن ن ن ن ه ه"),
    (0xfeeb, "ه ه و و ى ى ي ي ي ي لآ لآ لأ لأ لإ لإ لا لا"),
    (0xff10, "0 1 2 3 4 5 6 7 8 9"),
    (0xff21, "A B C D E F G H I J K L M N O P Q R S T U V W X Y Z"), (0xff3f, "_"),
    (0xff41, "a b c d e f g h i j k l m n o p q r s t u v w x y z"),
    (0xff66, "ヲ ァ ィ ゥ ェ ォ ャ ュ ョ ッ ー ア イ ウ エ オ カ キ ク ケ コ サ シ ス セ ソ タ チ ツ テ ト ナ ニ ヌ ネ ノ ハ ヒ"),
    (0xff8c, "フ ヘ ホ マ ミ ム メ モ ヤ ユ ヨ ラ リ ル レ ロ ワ ン ゙ ゚ ᅠ ᄀ ᄁ ᆪ ᄂ ᆬ ᆭ ᄃ ᄄ ᄅ ᆰ ᆱ ᆲ ᆳ ᆴ ᆵ ᄚ ᄆ"),
    (0xffb2, "ᄇ ᄈ ᄡ ᄉ ᄊ ᄋ ᄌ ᄍ ᄎ ᄏ ᄐ ᄑ ᄒ"), (0xffc2, "ᅡ ᅢ ᅣ ᅤ ᅥ ᅦ"), (0xffca, "ᅧ ᅨ ᅩ ᅪ ᅫ ᅬ"),
    (0xffd2, "ᅭ ᅮ ᅯ ᅰ ᅱ ᅲ"), (0xffda, "ᅳ ᅴ ᅵ"), (0x10781, "ː ˑ æ ʙ ɓ"),
    (0x10787, "ʣ ꭦ ʥ ʤ ɖ ɗ ᶑ ɘ ɞ ʩ ɤ ɢ ɠ ʛ ħ ʜ ɧ ʄ ʪ ʫ ɬ 𝼄 ꞎ ɮ 𝼅 ʎ 𝼆 ø ɶ ɷ q ɺ 𝼈 ɽ ɾ ʀ ʨ ʦ"),
    (0x107ad, "ꭧ ʧ ʈ ⱱ"), (0x107b2, "ʏ ʡ ʢ ʘ ǀ ǁ ǂ 𝼊 𝼞"),
    (0x1d400, "A B C D E F G H I J K L M N O P Q R S T U V W X Y Z a b c d e f g h i j k l"),
    (0x1d426, "m n o p q r s t u v w x y z A B C D E F G H I J K L M N O P Q R S T U V W X"),
    (0x1d44c, "Y Z a b c d e f g"),
    (0x1d456, "i j k l m n o p q r s t u v w x y z A B C D E F G H I J K L M N O P Q R S T"),
    (0x1d47c, "U V W X Y Z a b c d e f g h i j k l m n o p q r s t u v w x y z A"),
    (0x1d49e, "C D"), (0x1d4a2, "G"), (0x1d4a5, "J K"), (0x1d4a9, "N O P Q"),
    (0x1d4ae, "S T U V W X Y Z a b c d"), (0x1d4bb, "f"), (0x1d4bd, "h i j k l m n"),
    (0x1d4c5, "p q r s t u v w x y z A B C D E F G H I J K L M N O P Q R S T U V W X Y Z a"),
    (0x1d4eb, "b c d e f g h i j k l m n o p q r s t u v w x y z A B"), (0x1d507, "D E F G"),
    (0x1d50d, "J K L M N O P Q"), (0x1d516, "S T U V W X Y"),
    (0x1d51e, "a b c d e f g h i j k l m n o p q r s t u v w x y z A B"), (0x1d53b, "D E F G"),
    (0x1d540, "I J K L M"), (0x1d546, "O"), (0x1d54a, "S T U V W X Y"),
    (0x1d552, "a b c d e f g h i j k l m n o p q r s t u v w x y z A B C D E F G H I J K L"),
    (0x1d578, "M N O P Q R S T U V W X Y Z a b c d e f g h i j k l m n o p q r s t u v w x"),
    (0x1d59e, "y z A B C D E F G H I J K L M N O P Q R S T U V W X Y Z a b c d e f g h i j"),
    (0x1d5c4, "k l m n o p q r s t u v w x y z A B C D E F G H I J K L M N O P Q R S T U V"),
    (0x1d5ea, "W X Y Z a b c d e f g h i j k l m n o p q r s t u v w x y z A B C D E F G H"),
    (0x1d610, "I J K L M N O P Q R S T U V W X Y Z a b c d e f g h i j k l m n o p q r s t"),
    (0x1d636, "u v w x y z A B C D E F G H I J K L M N O P Q R S T U V W X Y Z a b c d e f"),
    (0x1d65c, "g h i j k l m n o p q r s t u v w x y z A B C D E F G H I J K L M N O P Q R"),
    (0x1d682, "S T U V W X Y Z a b c d e f g h i j k l m n o p q r s t u v w x y z ı ȷ"),
    (0x1d6a8, "Α Β Γ Δ Ε Ζ Η Θ Ι Κ Λ Μ Ν Ξ Ο Π Ρ Θ Σ Τ Υ Φ Χ Ψ Ω"),
    (0x1d6c2, "α β γ δ ε ζ η θ ι κ λ μ ν ξ ο π ρ ς σ τ υ φ χ ψ ω"),
    (0x1d6dc, "ε θ κ φ ρ π Α Β Γ Δ Ε Ζ Η Θ Ι Κ Λ Μ Ν Ξ Ο Π Ρ Θ Σ Τ Υ Φ Χ Ψ Ω"),
    (0x1d6fc, "α β γ δ ε ζ η θ ι κ λ μ ν ξ ο π ρ ς σ τ υ φ χ ψ ω"),
    (0x1d716, "ε θ κ φ ρ π Α Β Γ Δ Ε Ζ Η Θ Ι Κ Λ Μ Ν Ξ Ο Π Ρ Θ Σ Τ Υ Φ Χ Ψ Ω"),
    (0x1d736, "α β γ δ ε ζ η θ ι κ λ μ ν ξ ο π ρ ς σ τ υ φ χ ψ ω"),
    (0x1d750, "ε θ κ φ ρ π Α Β Γ Δ Ε Ζ Η Θ Ι Κ Λ Μ Ν Ξ Ο Π Ρ Θ Σ Τ Υ Φ Χ Ψ Ω"),
    (0x1d770, "α β γ δ ε ζ η θ ι κ λ μ ν ξ ο π ρ ς σ τ υ φ χ ψ ω"),
    (0x1d78a, "ε θ κ φ ρ π Α Β Γ Δ Ε Ζ Η Θ Ι Κ Λ Μ Ν Ξ Ο Π Ρ Θ Σ Τ Υ Φ Χ Ψ Ω"),
    (0x1d7aa, "α β γ δ ε ζ η θ ι κ λ μ ν ξ ο π ρ ς σ τ υ φ χ ψ ω"), (0x1d7c4, "ε θ κ φ ρ π Ϝ ϝ"),
    (0x1d7ce, "0 1 2 3 4 5 6 7 8 9 0 1 2 3 4 5 6 7 8 9 0 1 2 3 4 5 6 7 8 9 0 1 2 3 4 5 6 7"),
    (0x1d7f4, "8 9 0 1 2 3 4 5 6 7 8 9"), (0x1ee00, "ا ب ج د"),
    (0x1ee05, "و ز ح ط ي ك ل م ن س ع ف ص ق ر ش ت ث خ ذ ض ظ غ ٮ ں ڡ ٯ"), (0x1ee21, "ب ج"),
    (0x1ee24, "ه"), (0x1ee27, "ح"), (0x1ee29, "ي ك ل م ن س ع ف ص ق"), (0x1ee34, "ش ت ث خ"),
    (0x1ee39, "ض"), (0x1ee3b, "غ"), (0x1ee42, "ج"), (0x1ee47, "ح"), (0x1ee49, "ي"),
    (0x1ee4b, "ل"), (0x1ee4d, "ن س ع"), (0x1ee51, "ص ق"), (0x1ee54, "ش"), (0x1ee57, "خ"),
    (0x1ee59, "ض"), (0x1ee5b, "غ"), (0x1ee5d, "ں"), (0x1ee5f, "ٯ"), (0x1ee61, "ب ج"),
    (0x1ee64, "ه"), (0x1ee67, "ح ط ي ك"), (0x1ee6c, "م ن س ع ف ص ق"), (0x1ee74, "ش ت ث خ"),
    (0x1ee79, "ض ظ غ ٮ"), (0x1ee7e, "ڡ"), (0x1ee80, "ا ب ج د ه و ز ح ط ي"),
    (0x1ee8b, "ل م ن س ع ف ص ق ر ش ت ث خ ذ ض ظ غ"), (0x1eea1, "ب ج د"), (0x1eea5, "و ز ح ط ي"),
    (0x1eeab, "ل م ن س ع ف ص ق ر ش ت ث خ ذ ض ظ غ"), (0x1fbf0, "0 1 2 3 4 5 6 7 8 9"),
    (0x2f800, "丽 丸 乁 𠄢 你 侮 侻 倂 偺 備 僧 像 㒞 𠘺 免 兔 兤 具 𠔜 㒹 內 再 𠕋 冗 冤 仌 冬 况 𩇟 凵 刃 㓟 刻 剆 割 剷 㔕 勇"),
    (0x2f826, "勉 勤 勺 包 匆 北 卉 卑 博 即 卽 卿 卿 卿 𠨬 灰 及 叟 𠭣 叫 叱 吆 咞 吸 呈 周 咢 哶 唐 啓 啣 善 善 喙 喫 喳 嗂 圖"),
    (0x2f84c, "嘆 圗 噑 噴 切 壮 城 埴 堍 型 堲 報 墬 𡓤 売 壷 夆 多 夢 奢 𡚨 𡛪 姬 娛 娧 姘 婦 㛮 㛼 嬈 嬾 嬾 𡧈 寃 寘 寧 寳 𡬘"),
    (0x2f872, "寿 将 当 尢 㞁 屠 屮 峀 岍 𡷤 嵃 𡷦 嵮 嵫 嵼 巡 巢 㠯 巽 帨 帽 幩 㡢 𢆃 㡼 庰 庳 庶 廊 𪎒 廾 𢌱 𢌱 舁 弢 弢 㣇 𣊸"),
    (0x2f898, "𦇚 形 彫 㣣 徚 忍 志 忹 悁 㤺 㤜 悔 𢛔 惇 慈 慌 慎 慌 慺 憎 憲 憤 憯 懞 懲 懶 成 戛 扝 抱 拔 捐 𢬌 挽 拼 捨 掃 揤"),
    (0x2f8be, "𢯱 搢 揅 掩 㨮 摩 摾 撝 摷 㩬 敏 敬 𣀊 旣 書 晉 㬙 暑 㬈 㫤 冒 冕 最 暜 肭 䏙 朗 望 朡 杞 杓 𣏃 㭉 柺 枅 桒 梅 𣑭"),
    (0x2f8e4, "梎 栟 椔 㮝 楂 榣 槪 檨 𣚣 櫛 㰘 次 𣢧 歔 㱎 歲 殟 殺 殻 𣪍 𡴋 𣫺 汎 𣲼 沿 泍 汧 洖 派 海 流 浩 浸 涅 𣴞 洴 港 湮"),
    (0x2f90a, "㴳 滋 滇 𣻑 淹 潮 𣽞 𣾎 濆 瀹 瀞 瀛 㶖 灊 災 灷 炭 𠔥 煅 𤉣 熜 𤎫 爨 爵 牐 𤘈 犀 犕 𤜵 𤠔 獺 王 㺬 玥 㺸 㺸 瑇 瑜"),
    (0x2f930, "瑱 璅 瓊 㼛 甤 𤰶 甾 𤲒 異 𢆟 瘐 𤾡 𤾸 𥁄 㿼 䀈 直 𥃳 𥃲 𥄙 𥄳 眞 真 真 睊 䀹 瞋 䁆 䂖 𥐝 硎 碌 磌 䃣 𥘦 祖 𥚚 𥛅"),
    (0x2f956, "福 秫 䄯 穀 穊 穏 𥥼 𥪧 𥪧 竮 䈂 𥮫 篆 築 䈧 𥲀 糒 䊠 糨 糣 紀 𥾆 絣 䌁 緇 縂 繅 䌴 𦈨 𦉇 䍙 𦋙 罺 𦌾 羕 翺 者 𦓚"),
    (0x2f97c, "𦔣 聠 𦖨 聰 𣍟 䏕 育 脃 䐋 脾 媵 𦞧 𦞵 𣎓 𣎜 舁 舄 辞 䑫 芑 芋 芝 劳 花 芳 芽 苦 𦬼 若 茝 荣 莭 茣 莽 菧 著 荓 菊"),
    (0x2f9a2, "菌 菜 𦰶 𦵫 𦳕 䔫 蓱 蓳 蔖 𧏊 蕤 𦼬 䕝 䕡 𦾱 𧃒 䕫 虐 虜 虧 虩 蚩 蚈 蜎 蛢 蝹 蜨 蝫 螆 䗗 蟡 蠁 䗹 衠 衣 𧙧 裗 裞"),
    (0x2f9c8, "䘵 裺 㒻 𧢮 𧥦 䚾 䛇 誠 諭 變 豕 𧲨 貫 賁 贛 起 𧼯 𠠄 跋 趼 跰 𠣞 軔 輸 𨗒 𨗭 邔 郱 鄑 𨜮 鄛 鈸 鋗 鋘 鉼 鏹 鐕 𨯺"),
    (0x2f9ee, "開 䦕 閷 𨵷 䧦 雃 嶲 霣 𩅅 𩈚 䩮 䩶 韠 𩐊 䪲 𩒖 頋 頋 頩 𩖶 飢 䬳 餩 馧 駂 駾 䯎 𩬰 鬒 鱀 鳽 䳎 䳭 鵧 𪃎 䳸 𪄅 𪈎"),
    (0x2fa14, "𪊑 麻 䵖 黹 黾 鼅 鼏 鼖 鼻 𪘀")]

/-- The classes of marks, for ranges of characters. Any other character has class zero. -/
def classes : Array (Nat × Nat × Nat) :=
  #[(768, 788, 230), (789, 789, 232), (790, 793, 220), (794, 794, 232), (795, 795, 216),
    (796, 800, 220), (801, 802, 202), (803, 806, 220), (807, 808, 202), (809, 819, 220),
    (820, 824, 1), (825, 828, 220), (829, 836, 230), (837, 837, 240), (838, 838, 230),
    (839, 841, 220), (842, 844, 230), (845, 846, 220), (848, 850, 230), (851, 854, 220),
    (855, 855, 230), (856, 856, 232), (857, 858, 220), (859, 859, 230), (860, 860, 233),
    (861, 862, 234), (863, 863, 233), (864, 865, 234), (866, 866, 233), (867, 879, 230),
    (1155, 1159, 230), (1425, 1425, 220), (1426, 1429, 230), (1430, 1430, 220), (1431, 1433, 230),
    (1434, 1434, 222), (1435, 1435, 220), (1436, 1441, 230), (1442, 1447, 220), (1448, 1449, 230),
    (1450, 1450, 220), (1451, 1452, 230), (1453, 1453, 222), (1454, 1454, 228), (1455, 1455, 230),
    (1456, 1456, 10), (1457, 1457, 11), (1458, 1458, 12), (1459, 1459, 13), (1460, 1460, 14),
    (1461, 1461, 15), (1462, 1462, 16), (1463, 1463, 17), (1464, 1464, 18), (1465, 1466, 19),
    (1467, 1467, 20), (1468, 1468, 21), (1469, 1469, 22), (1471, 1471, 23), (1473, 1473, 24),
    (1474, 1474, 25), (1476, 1476, 230), (1477, 1477, 220), (1479, 1479, 18), (1552, 1559, 230),
    (1560, 1560, 30), (1561, 1561, 31), (1562, 1562, 32), (1611, 1611, 27), (1612, 1612, 28),
    (1613, 1613, 29), (1614, 1614, 30), (1615, 1615, 31), (1616, 1616, 32), (1617, 1617, 33),
    (1618, 1618, 34), (1619, 1620, 230), (1621, 1622, 220), (1623, 1627, 230), (1628, 1628, 220),
    (1629, 1630, 230), (1631, 1631, 220), (1648, 1648, 35), (1750, 1762, 230), (1763, 1763, 220),
    (1764, 1764, 230), (1767, 1768, 230), (1770, 1770, 220), (1771, 1772, 230), (1773, 1773, 220),
    (1809, 1809, 36), (1840, 1840, 230), (1841, 1841, 220), (1842, 1843, 230), (1844, 1844, 220),
    (1845, 1846, 230), (1847, 1849, 220), (1850, 1850, 230), (1851, 1852, 220), (1853, 1853, 230),
    (1854, 1854, 220), (1855, 1857, 230), (1858, 1858, 220), (1859, 1859, 230), (1860, 1860, 220),
    (1861, 1861, 230), (1862, 1862, 220), (1863, 1863, 230), (1864, 1864, 220), (1865, 1866, 230),
    (2027, 2033, 230), (2034, 2034, 220), (2035, 2035, 230), (2045, 2045, 220), (2070, 2073, 230),
    (2075, 2083, 230), (2085, 2087, 230), (2089, 2093, 230), (2137, 2139, 220), (2200, 2200, 230),
    (2201, 2203, 220), (2204, 2207, 230), (2250, 2254, 230), (2255, 2259, 220), (2260, 2273, 230),
    (2275, 2275, 220), (2276, 2277, 230), (2278, 2278, 220), (2279, 2280, 230), (2281, 2281, 220),
    (2282, 2284, 230), (2285, 2287, 220), (2288, 2288, 27), (2289, 2289, 28), (2290, 2290, 29),
    (2291, 2293, 230), (2294, 2294, 220), (2295, 2296, 230), (2297, 2298, 220), (2299, 2303, 230),
    (2364, 2364, 7), (2381, 2381, 9), (2385, 2385, 230), (2386, 2386, 220), (2387, 2388, 230),
    (2492, 2492, 7), (2509, 2509, 9), (2558, 2558, 230), (2620, 2620, 7), (2637, 2637, 9),
    (2748, 2748, 7), (2765, 2765, 9), (2876, 2876, 7), (2893, 2893, 9), (3021, 3021, 9),
    (3132, 3132, 7), (3149, 3149, 9), (3157, 3157, 84), (3158, 3158, 91), (3260, 3260, 7),
    (3277, 3277, 9), (3387, 3388, 9), (3405, 3405, 9), (3530, 3530, 9), (3640, 3641, 103),
    (3642, 3642, 9), (3656, 3659, 107), (3768, 3769, 118), (3770, 3770, 9), (3784, 3787, 122),
    (3864, 3865, 220), (3893, 3895, 220), (3897, 3897, 216), (3953, 3953, 129), (3954, 3954, 130),
    (3956, 3956, 132), (3962, 3965, 130), (3968, 3968, 130), (3970, 3971, 230), (3972, 3972, 9),
    (3974, 3975, 230), (4038, 4038, 220), (4151, 4151, 7), (4153, 4154, 9), (4237, 4237, 220),
    (4957, 4959, 230), (5908, 5909, 9), (5940, 5940, 9), (6098, 6098, 9), (6109, 6109, 230),
    (6313, 6313, 228), (6457, 6457, 222), (6458, 6458, 230), (6459, 6459, 220), (6679, 6679, 230),
    (6680, 6680, 220), (6752, 6752, 9), (6773, 6780, 230), (6783, 6783, 220), (6832, 6836, 230),
    (6837, 6842, 220), (6843, 6844, 230), (6845, 6848, 220), (6849, 6850, 230), (6851, 6852, 220),
    (6853, 6857, 230), (6858, 6858, 220), (6859, 6862, 230), (6964, 6964, 7), (6980, 6980, 9),
    (7019, 7019, 230), (7020, 7020, 220), (7021, 7027, 230), (7082, 7083, 9), (7142, 7142, 7),
    (7154, 7155, 9), (7223, 7223, 7), (7376, 7378, 230), (7380, 7380, 1), (7381, 7385, 220),
    (7386, 7387, 230), (7388, 7391, 220), (7392, 7392, 230), (7394, 7400, 1), (7405, 7405, 220),
    (7412, 7412, 230), (7416, 7417, 230), (7616, 7617, 230), (7618, 7618, 220), (7619, 7625, 230),
    (7626, 7626, 220), (7627, 7628, 230), (7629, 7629, 234), (7630, 7630, 214), (7631, 7631, 220),
    (7632, 7632, 202), (7633, 7669, 230), (7670, 7670, 232), (7671, 7672, 228), (7673, 7673, 220),
    (7674, 7674, 218), (7675, 7675, 230), (7676, 7676, 233), (7677, 7677, 220), (7678, 7678, 230),
    (7679, 7679, 220), (8400, 8401, 230), (8402, 8403, 1), (8404, 8407, 230), (8408, 8410, 1),
    (8411, 8417, 230), (8421, 8422, 1), (8423, 8423, 230), (8424, 8424, 220), (8425, 8425, 230),
    (8426, 8427, 1), (8428, 8431, 220), (8432, 8432, 230), (11503, 11505, 230), (11647, 11647, 9),
    (11744, 11775, 230), (12330, 12330, 218), (12331, 12331, 228), (12332, 12332, 232),
    (12333, 12333, 222), (12334, 12335, 224), (12441, 12442, 8), (42607, 42621, 230),
    (42654, 42655, 230), (42736, 42737, 230), (43014, 43014, 9), (43052, 43052, 9),
    (43204, 43204, 9), (43232, 43249, 230), (43307, 43309, 220), (43347, 43347, 9),
    (43443, 43443, 7), (43456, 43456, 9), (43696, 43696, 230), (43698, 43699, 230),
    (43700, 43700, 220), (43703, 43704, 230), (43710, 43711, 230), (43713, 43713, 230),
    (43766, 43766, 9), (44013, 44013, 9), (64286, 64286, 26), (65056, 65062, 230),
    (65063, 65069, 220), (65070, 65071, 230), (66045, 66045, 220), (66272, 66272, 220),
    (66422, 66426, 230), (68109, 68109, 220), (68111, 68111, 230), (68152, 68152, 230),
    (68153, 68153, 1), (68154, 68154, 220), (68159, 68159, 9), (68325, 68325, 230),
    (68326, 68326, 220), (68900, 68903, 230), (69291, 69292, 230), (69446, 69447, 220),
    (69448, 69450, 230), (69451, 69451, 220), (69452, 69452, 230), (69453, 69456, 220),
    (69506, 69506, 230), (69507, 69507, 220), (69508, 69508, 230), (69509, 69509, 220),
    (69702, 69702, 9), (69744, 69744, 9), (69759, 69759, 9), (69817, 69817, 9), (69818, 69818, 7),
    (69888, 69890, 230), (69939, 69940, 9), (70003, 70003, 7), (70080, 70080, 9),
    (70090, 70090, 7), (70197, 70197, 9), (70198, 70198, 7), (70377, 70377, 7), (70378, 70378, 9),
    (70459, 70460, 7), (70477, 70477, 9), (70502, 70516, 230), (70722, 70722, 9),
    (70726, 70726, 7), (70750, 70750, 230), (70850, 70850, 9), (70851, 70851, 7),
    (71103, 71103, 9), (71104, 71104, 7), (71231, 71231, 9), (71350, 71350, 9), (71351, 71351, 7),
    (71467, 71467, 9), (71737, 71737, 9), (71738, 71738, 7), (71997, 71998, 9), (72003, 72003, 7),
    (72160, 72160, 9), (72244, 72244, 9), (72263, 72263, 9), (72345, 72345, 9), (72767, 72767, 9),
    (73026, 73026, 7), (73028, 73029, 9), (73111, 73111, 9), (92912, 92916, 1),
    (92976, 92982, 230), (94192, 94193, 6), (113822, 113822, 1), (119141, 119142, 216),
    (119143, 119145, 1), (119149, 119149, 226), (119150, 119154, 216), (119163, 119170, 220),
    (119173, 119177, 230), (119178, 119179, 220), (119210, 119364, 230), (122880, 122922, 230),
    (123184, 123190, 230), (123566, 123566, 230), (123628, 123631, 230), (125136, 125142, 220),
    (125252, 125257, 230), (125258, 125258, 7)]

/-- What is put together, with its parts. -/
def compositeEntries : List (Char × List Char) := composites.entries

/-- Whatever is taken apart, with its parts. -/
def entries : List (Char × List Char) := compositeEntries ++ others.entries

/-- The class of a character. -/
def classOf (c : Char) : Nat :=
  ((classes.find? fun (first, last, _) => first ≤ c.toNat && c.toNat ≤ last).map (·.2.2)).getD 0

/-! ### Hangul

A syllable is a leading consonant, a vowel, and maybe a trailing consonant. -/

/-- The number of the first syllable. -/
def firstSyllable : Nat := 0xac00

/-- The number of the first leading consonant, of which there are 19. -/
def firstLead : Nat := 0x1100

/-- The number of the first vowel, of which there are 21. -/
def firstVowel : Nat := 0x1161

/-- The number in front of the first trailing consonant, of which there are 27. -/
def beforeTrails : Nat := 0x11a7

/-- The place of a character from a number on, below a bound. -/
def placeFrom? (first bound : Nat) (c : Char) : Option Nat :=
  if first ≤ c.toNat && c.toNat < first + bound then some (c.toNat - first) else none

/-- The parts of a syllable. -/
def syllableParts? (c : Char) : Option (List Char) :=
  (placeFrom? firstSyllable (19 * 21 * 28) c).map fun n =>
    let pair := [Char.ofNat (firstLead + n / 588), Char.ofNat (firstVowel + n % 588 / 28)]
    if n % 28 = 0 then pair else pair ++ [Char.ofNat (beforeTrails + n % 28)]

/-- The syllable of a consonant and a vowel, or of a syllable without trailing consonant and such
a consonant. -/
def syllable? (c d : Char) : Option Char :=
  match placeFrom? firstLead 19 c, placeFrom? firstVowel 21 d with
  | some lead, some vowel => some (Char.ofNat (firstSyllable + (lead * 21 + vowel) * 28))
  | _, _ =>
    match placeFrom? firstSyllable (19 * 21 * 28) c, placeFrom? (beforeTrails + 1) 27 d with
    | some n, some trail => if n % 28 = 0 then some (Char.ofNat (c.toNat + trail + 1)) else none
    | _, _ => none

/-! ### The normal form -/

/-- What a character is taken apart to. -/
def parts (c : Char) : List Char :=
  (syllableParts? c).getD ((entries.lookup c).getD [c])

/-- Puts a mark behind the marks of a smaller class or of its own, which are in order. -/
def insertMark (mark : Char) : List Char → List Char
  | [] => [mark]
  | c :: rest => if classOf c ≤ classOf mark then c :: insertMark mark rest else mark :: c :: rest

/-- The characters with the marks in a row in the order of their classes, the ones read so far in
front. -/
def ordered (marks : List Char) : List Char → List Char
  | [] => marks
  | c :: rest =>
    if classOf c = 0 then marks ++ c :: ordered [] rest else ordered (insertMark c marks) rest

/-- The character that stands for two. -/
def composite? (c d : Char) : Option Char :=
  let whole := (compositeEntries.lookup c).getD [c] ++ [d]
  (syllable? c d).or ((compositeEntries.find? (·.2 == whole)).map (·.1))

/-- Puts characters together: a first one, the marks behind it that could not be put to it (the
last one in front), and the class of the last. -/
def composed (first : Char) (kept : List Char) (last : Nat) : List Char → List Char
  | [] => first :: kept.reverse
  | c :: rest =>
    let found := if kept.isEmpty || last < classOf c then composite? first c else none
    match found with
    | some whole => composed whole kept last rest
    | none =>
      if classOf c = 0 then first :: kept.reverse ++ composed c [] 0 rest
      else composed first (c :: kept) (classOf c) rest

/-- Any text taken apart, put in order and put together again. -/
def normalized (cs : List Char) : List Char :=
  match ordered [] (cs.flatMap parts) with
  | [] => []
  | c :: rest => composed c [] 0 rest

end Normal

/-- The **normal form** of an identifier. ASCII is in normal form. -/
def normalIdentifier (cs : List Char) : List Char :=
  if cs.all (·.toNat < 128) then cs else Normal.normalized cs

end ProviderRegistry.Text
