/-!
# Forms of letters in host names

A row gives the forms of successive characters, beginning with the code point in front: small
letters for capitals, plain letters and digits for raised and wide ones, parts for ligatures. The
replacement character stands where a character has no form that a name may hold.
-/

namespace Parley.Url.HostName

/-- Alphabets of Europe and the East. -/
def letterForms : List (Nat × String) := [
  (0xA0, "�"),
   (0xA8, "� © a"),
   (0xAF, "� ° ± 2 3 � μ ¶ · � 1 o » 1⁄4 1⁄2 3⁄4 ¿ à á â ã ä å æ ç è é ê ë ì í î ï ð ñ ò ó ô õ ö"),
   (0xD7, "× ø ù ú û ü ý þ"),
   (0x100, "ā ā ă ă ą ą ć ć ĉ ĉ ċ ċ č č ď ď đ đ ē ē ĕ ĕ ė ė ę ę ě ě ĝ ĝ ğ ğ ġ ġ ģ ģ ĥ ĥ ħ ħ ĩ ĩ"),
   (0x12A, "ī ī ĭ ĭ į į i̇ ı ij ij ĵ ĵ ķ ķ ĸ ĺ ĺ ļ ļ ľ ľ l· l· ł ł ń ń ņ ņ ň ň ʼn ŋ ŋ ō ō ŏ ŏ ő"),
   (0x151, "ő œ œ ŕ ŕ ŗ ŗ ř ř ś ś ŝ ŝ ş ş š š ţ ţ ť ť ŧ ŧ ũ ũ ū ū ŭ ŭ ů ů ű ű ų ų ŵ ŵ ŷ ŷ ÿ ź ź"),
   (0x17B, "ż ż ž ž s ƀ ɓ ƃ ƃ ƅ ƅ ɔ ƈ ƈ ɖ ɗ ƌ ƌ ƍ ǝ ə ɛ ƒ ƒ ɠ ɣ ƕ ɩ ɨ ƙ ƙ ƚ ƛ ɯ ɲ ƞ ɵ ơ ơ ƣ ƣ ƥ"),
   (0x1A5, "ƥ ʀ ƨ ƨ ʃ ƪ ƫ ƭ ƭ ʈ ư ư ʊ ʋ ƴ ƴ ƶ ƶ ʒ ƹ ƹ ƺ ƻ ƽ"),
   (0x1C4, "dž dž dž lj lj lj nj nj nj ǎ ǎ ǐ ǐ ǒ ǒ ǔ ǔ ǖ ǖ ǘ ǘ ǚ ǚ ǜ ǜ ǝ ǟ ǟ ǡ ǡ ǣ ǣ ǥ ǥ ǧ ǧ ǩ ǩ"),
   (0x1EA, "ǫ ǫ ǭ ǭ ǯ ǯ ǰ dz dz dz ǵ ǵ ƕ ƿ ǹ ǹ ǻ ǻ ǽ ǽ ǿ ǿ ȁ ȁ ȃ ȃ ȅ ȅ ȇ ȇ ȉ ȉ ȋ ȋ ȍ ȍ ȏ ȏ ȑ ȑ ȓ"),
   (0x213, "ȓ ȕ ȕ ȗ ȗ ș ș ț ț ȝ ȝ ȟ ȟ ƞ ȡ ȣ ȣ ȥ ȥ ȧ ȧ ȩ ȩ ȫ ȫ ȭ ȭ ȯ ȯ ȱ ȱ ȳ"),
   (0x23A, "ⱥ ȼ ȼ ƚ ⱦ ȿ ɀ ɂ ɂ ƀ ʉ ʌ ɇ ɇ ɉ ɉ ɋ ɋ ɍ ɍ ɏ"),
   (0x2B0, "h ɦ j r ɹ ɻ ʁ w y"),
   (0x2D8, "� � � � � � ˞ ˟ ɣ l s x ʕ"),
   (0x340, "̀ ́"),
   (0x343, "̓ ̈́ ι"),
   (0x370, "ͱ ͱ ͳ ͳ ʹ ͵ ͷ ͷ � � � ͻ ͼ ͽ ; ϳ"),
   (0x384, "� � ά · έ ή ί � ό � ύ ώ ΐ α β γ δ ε ζ η θ ι κ λ μ ν ξ ο π ρ � σ τ υ φ χ ψ ω ϊ ϋ"),
   (0x3CF, "ϗ β θ υ ύ ϋ φ π ϗ ϙ ϙ ϛ ϛ ϝ ϝ ϟ ϟ ϡ ϡ ϣ ϣ ϥ ϥ ϧ ϧ ϩ ϩ ϫ ϫ ϭ ϭ ϯ ϯ κ ρ σ ϳ θ ε ϶ ϸ ϸ"),
   (0x3F9, "σ ϻ ϻ ϼ ͻ ͼ ͽ ѐ ё ђ ѓ є ѕ і ї ј љ њ ћ ќ ѝ ў џ а б в г д е ж з и й к л м н о п р с т"),
   (0x423, "у ф х ц ч ш щ ъ ы ь э ю я"),
   (0x460, "ѡ ѡ ѣ ѣ ѥ ѥ ѧ ѧ ѩ ѩ ѫ ѫ ѭ ѭ ѯ ѯ ѱ ѱ ѳ ѳ ѵ ѵ ѷ ѷ ѹ ѹ ѻ ѻ ѽ ѽ ѿ ѿ ҁ"),
   (0x48A, "ҋ ҋ ҍ ҍ ҏ ҏ ґ ґ ғ ғ ҕ ҕ җ җ ҙ ҙ қ қ ҝ ҝ ҟ ҟ ҡ ҡ ң ң ҥ ҥ ҧ ҧ ҩ ҩ ҫ ҫ ҭ ҭ ү ү ұ ұ ҳ ҳ"),
   (0x4B4, "ҵ ҵ ҷ ҷ ҹ ҹ һ һ ҽ ҽ ҿ ҿ ӏ ӂ ӂ ӄ ӄ ӆ ӆ ӈ ӈ ӊ ӊ ӌ ӌ ӎ ӎ ӏ ӑ ӑ ӓ ӓ ӕ ӕ ӗ ӗ ә ә ӛ ӛ ӝ ӝ"),
   (0x4DE, "ӟ ӟ ӡ ӡ ӣ ӣ ӥ ӥ ӧ ӧ ө ө ӫ ӫ ӭ ӭ ӯ ӯ ӱ ӱ ӳ ӳ ӵ ӵ ӷ ӷ ӹ ӹ ӻ ӻ ӽ ӽ ӿ ӿ ԁ ԁ ԃ ԃ ԅ ԅ ԇ ԇ"),
   (0x508, "ԉ ԉ ԋ ԋ ԍ ԍ ԏ ԏ ԑ ԑ ԓ ԓ ԕ ԕ ԗ ԗ ԙ ԙ ԛ ԛ ԝ ԝ ԟ ԟ ԡ ԡ ԣ ԣ ԥ ԥ ԧ ԧ ԩ ԩ ԫ ԫ ԭ ԭ ԯ ԯ � ա"),
   (0x532, "բ գ դ ե զ է ը թ ժ ի լ խ ծ կ հ ձ ղ ճ մ յ ն շ ո չ պ ջ ռ ս վ տ ր ց ւ փ ք օ ֆ"),
   (0x587, "եւ"),
   (0x675, "اٴ وٴ ۇٴ يٴ"),
   (0x958, "क़ ख़ ग़ ज़ ड़ ढ़ फ़ य़"),
   (0x9DC, "ড় ঢ় � য়"),
   (0xA33, "ਲ਼ � ਵ ਸ਼"),
   (0xA59, "ਖ਼ ਗ਼ ਜ਼ ੜ � ਫ਼"),
   (0xB5C, "ଡ଼ ଢ଼"),
   (0xE33, "ํา"),
   (0xEB3, "ໍາ"),
   (0xEDC, "ຫນ ຫມ"),
   (0xF0C, "་"),
   (0xF43, "གྷ"),
   (0xF4D, "ཌྷ"),
   (0xF52, "དྷ"),
   (0xF57, "བྷ"),
   (0xF5C, "ཛྷ"),
   (0xF69, "ཀྵ"),
   (0xF73, "ཱི"),
   (0xF75, "ཱུ ྲྀ ྲཱྀ ླྀ ླཱྀ"),
   (0xF81, "ཱྀ"),
   (0xF93, "ྒྷ"),
   (0xF9D, "ྜྷ"),
   (0xFA2, "ྡྷ"),
   (0xFA7, "ྦྷ"),
   (0xFAC, "ྫྷ"),
   (0xFB9, "ྐྵ"),
   (0x10A0, "ⴀ ⴁ ⴂ ⴃ ⴄ ⴅ ⴆ ⴇ ⴈ ⴉ ⴊ ⴋ ⴌ ⴍ ⴎ ⴏ ⴐ ⴑ ⴒ ⴓ ⴔ ⴕ ⴖ ⴗ ⴘ ⴙ ⴚ ⴛ ⴜ ⴝ ⴞ ⴟ ⴠ ⴡ ⴢ ⴣ ⴤ ⴥ � ⴧ"),
   (0x10CD, "ⴭ"),
   (0x10FC, "ნ"),
   (0x13F8, "Ᏸ Ᏹ Ᏺ Ᏻ Ᏼ Ᏽ"),
   (0x1C80, "в д о с т т ъ ѣ ꙋ ᲊ"),
   (0x1C90, "ა ბ გ დ ე ვ ზ თ ი კ ლ მ ნ ო პ ჟ რ ს ტ უ ფ ქ ღ ყ შ ჩ ც ძ წ ჭ ხ ჯ ჰ ჱ ჲ ჳ ჴ ჵ ჶ ჷ ჸ ჹ"),
   (0x1CBA, "ჺ � � ჽ ჾ ჿ"),
   (0x1D2C, "a æ b ᴯ d e ǝ g h i j k l m n ᴻ o ȣ p r t u w a ɐ ɑ ᴂ b d e ə ɛ ɜ g ᵎ k m ŋ o ɔ ᴖ ᴗ"),
   (0x1D56, "p t u ᴝ ɯ v ᴥ β γ δ φ χ i r u v β γ ρ φ χ"),
   (0x1D78, "н"),
   (0x1D9B, "ɒ c ɕ ð ɜ f ɟ ɡ ɥ ɨ ɩ ɪ ᵻ ʝ ɭ ᶅ ʟ ɱ ɰ ɲ ɳ ɴ ɵ ɸ ʂ ʃ ƫ ʉ ʊ ᴜ ʋ ʌ z ʐ ʑ ʒ θ"),
   (0x1E00, "ḁ ḁ ḃ ḃ ḅ ḅ ḇ ḇ ḉ ḉ ḋ ḋ ḍ ḍ ḏ ḏ ḑ ḑ ḓ ḓ ḕ ḕ ḗ ḗ ḙ ḙ ḛ ḛ ḝ ḝ ḟ ḟ ḡ ḡ ḣ ḣ ḥ ḥ ḧ ḧ ḩ ḩ"),
   (0x1E2A, "ḫ ḫ ḭ ḭ ḯ ḯ ḱ ḱ ḳ ḳ ḵ ḵ ḷ ḷ ḹ ḹ ḻ ḻ ḽ ḽ ḿ ḿ ṁ ṁ ṃ ṃ ṅ ṅ ṇ ṇ ṉ ṉ ṋ ṋ ṍ ṍ ṏ ṏ ṑ ṑ ṓ ṓ"),
   (0x1E54, "ṕ ṕ ṗ ṗ ṙ ṙ ṛ ṛ ṝ ṝ ṟ ṟ ṡ ṡ ṣ ṣ ṥ ṥ ṧ ṧ ṩ ṩ ṫ ṫ ṭ ṭ ṯ ṯ ṱ ṱ ṳ ṳ ṵ ṵ ṷ ṷ ṹ ṹ ṻ ṻ ṽ ṽ"),
   (0x1E7E, "ṿ ṿ ẁ ẁ ẃ ẃ ẅ ẅ ẇ ẇ ẉ ẉ ẋ ẋ ẍ ẍ ẏ ẏ ẑ ẑ ẓ ẓ ẕ"),
   (0x1E9A, "aʾ ṡ ẜ ẝ ß ẟ ạ ạ ả ả ấ ấ ầ ầ ẩ ẩ ẫ ẫ ậ ậ ắ ắ ằ ằ ẳ ẳ ẵ ẵ ặ ặ ẹ ẹ ẻ ẻ ẽ ẽ ế ế ề ề ể"),
   (0x1EC3, "ể ễ ễ ệ ệ ỉ ỉ ị ị ọ ọ ỏ ỏ ố ố ồ ồ ổ ổ ỗ ỗ ộ ộ ớ ớ ờ ờ ở ở ỡ ỡ ợ ợ ụ ụ ủ ủ ứ ứ ừ ừ ử"),
   (0x1EED, "ử ữ ữ ự ự ỳ ỳ ỵ ỵ ỷ ỷ ỹ ỹ ỻ ỻ ỽ ỽ ỿ"),
   (0x1F08, "ἀ ἁ ἂ ἃ ἄ ἅ ἆ ἇ"),
   (0x1F18, "ἐ ἑ ἒ ἓ ἔ ἕ"),
   (0x1F28, "ἠ ἡ ἢ ἣ ἤ ἥ ἦ ἧ"),
   (0x1F38, "ἰ ἱ ἲ ἳ ἴ ἵ ἶ ἷ"),
   (0x1F48, "ὀ ὁ ὂ ὃ ὄ ὅ"),
   (0x1F59, "ὑ � ὓ � ὕ � ὗ"),
   (0x1F68, "ὠ ὡ ὢ ὣ ὤ ὥ ὦ ὧ ὰ ά ὲ έ ὴ ή ὶ ί ὸ ό ὺ ύ ὼ ώ � � ἀι ἁι ἂι ἃι ἄι ἅι ἆι ἇι ἀι ἁι ἂι ἃι"),
   (0x1F8C, "ἄι ἅι ἆι ἇι ἠι ἡι ἢι ἣι ἤι ἥι ἦι ἧι ἠι ἡι ἢι ἣι ἤι ἥι ἦι ἧι ὠι ὡι ὢι ὣι ὤι ὥι ὦι ὧι"),
   (0x1FA8, "ὠι ὡι ὢι ὣι ὤι ὥι ὦι ὧι ᾰ ᾱ ὰι αι άι � ᾶ ᾶι ᾰ ᾱ ὰ ά αι � ι � � � ὴι ηι ήι � ῆ ῆι ὲ"),
   (0x1FC9, "έ ὴ ή ηι � � � ῐ ῑ ῒ ΐ"),
   (0x1FD8, "ῐ ῑ ὶ ί � � � � ῠ ῡ ῢ ΰ"),
   (0x1FE8, "ῠ ῡ ὺ ύ ῥ � � \x60 � � ὼι ωι ώι � ῶ ῶι ὸ ό ὼ ώ ωι � � � � � � � � � � � � � �")]

/-- Presentation forms and wide letters. -/
def presentationForms : List (Nat × String) := [
  (0xFB00, "ff fi fl ffi ffl st st"),
   (0xFB13, "մն մե մի վն մխ"),
   (0xFB1D, "יִ"),
   (0xFB1F, "ײַ ע א ד ה כ ל ם ר ת + שׁ שׂ שּׁ שּׂ אַ אָ אּ בּ גּ דּ הּ וּ זּ � טּ יּ ךּ כּ לּ �"),
   (0xFB3E, "מּ � נּ סּ � ףּ פּ � צּ קּ רּ שּ תּ וֹ בֿ כֿ פֿ אל ٱ ٱ ٻ ٻ ٻ ٻ پ پ پ پ ڀ ڀ ڀ ڀ ٺ ٺ"),
   (0xFB60, "ٺ ٺ ٿ ٿ ٿ ٿ ٹ ٹ ٹ ٹ ڤ ڤ ڤ ڤ ڦ ڦ ڦ ڦ ڄ ڄ ڄ ڄ ڃ ڃ ڃ ڃ چ چ چ چ ڇ ڇ ڇ ڇ ڍ ڍ ڌ ڌ ڎ ڎ ڈ ڈ"),
   (0xFB8A, "ژ ژ ڑ ڑ ک ک ک ک گ گ گ گ ڳ ڳ ڳ ڳ ڱ ڱ ڱ ڱ ں ں ڻ ڻ ڻ ڻ ۀ ۀ ہ ہ ہ ہ ھ ھ ھ ھ ے ے ۓ ۓ"),
   (0xFBD3, "ڭ ڭ ڭ ڭ ۇ ۇ ۆ ۆ ۈ ۈ ۇٴ ۋ ۋ ۅ ۅ ۉ ۉ ې ې ې ې ى ى ئا ئا ئە ئە ئو ئو ئۇ ئۇ ئۆ ئۆ ئۈ ئۈ"),
   (0xFBF6, "ئې ئې ئې ئى ئى ئى ی ی ی ی ئج ئح ئم ئى ئي بج بح بخ بم بى بي تج تح تخ تم تى تي ثج ثم"),
   (0xFC13, "ثى ثي جح جم حج حم خج خح خم سج سح سخ سم صح صم ضج ضح ضخ ضم طح طم ظم عج عم غج غم فج فح"),
   (0xFC2F, "فخ فم فى في قح قم قى قي كا كج كح كخ كل كم كى كي لج لح لخ لم لى لي مج مح مخ مم مى مي"),
   (0xFC4B, "نج نح نخ نم نى ني هج هم هى هي يج يح يخ يم يى يي ذٰ رٰ ىٰ � � � � � � ئر ئز ئم ئن ئى"),
   (0xFC69, "ئي بر بز بم بن بى بي تر تز تم تن تى تي ثر ثز ثم ثن ثى ثي فى في قى قي كا كل كم كى كي"),
   (0xFC85, "لم لى لي ما مم نر نز نم نن نى ني ىٰ ير يز يم ين يى يي ئج ئح ئخ ئم ئه بج بح بخ بم به"),
   (0xFCA1, "تج تح تخ تم ته ثم جح جم حج حم خج خم سج سح سخ سم صح صخ صم ضج ضح ضخ ضم طح ظم عج عم غج"),
   (0xFCBD, "غم فج فح فخ فم قح قم كج كح كخ كل كم لج لح لخ لم له مج مح مخ مم نج نح نخ نم نه هج هم"),
   (0xFCD9, "هٰ يج يح يخ يم يه ئم ئه بم به تم ته ثم ثه سم سه شم شه كل كم لم نم نه يم يه ـَّ ـُّ"),
   (0xFCF4, "ـِّ طى طي عى عي غى غي سى سي شى شي حى حي جى جي خى خي صى صي ضى ضي شج شح شخ شم شر سر"),
   (0xFD0F, "صر ضر طى طي عى عي غى غي سى سي شى شي حى حي جى جي خى خي صى صي ضى ضي شج شح شخ شم شر سر"),
   (0xFD2B, "صر ضر شج شح شخ شم سه شه طم سج سح سخ شج شح شخ طم ظم اً اً"),
   (0xFD50, "تجم تحج تحج تحم تخم تمج تمح تمخ جمح جمح حمي حمى سحج سجح سجى سمح سمح سمج سمم سمم صحح"),
   (0xFD65, "صحح صمم شحم شحم شجي شمخ شمخ شمم شمم ضحى ضخم ضخم طمح طمح طمم طمي عجم عمم عمم عمى غمم"),
   (0xFD7A, "غمي غمى فخم فخم قمح قمم لحم لحي لحى لجج لجج لخم لخم لمح لمح محج محم محي مجح مجم مخج"),
   (0xFD8F, "مخم ﶐ ﶑ مجخ همج همم نحم نحى نجم نجم نجى نمي نمى يمم يمم بخي تجي تجى تخي تخى تمي تمى"),
   (0xFDA5, "جمي جحى جمى سخى صحي شحي ضحي لجي لمي يحي يجي يمي ممي قمي نحي قمح لحم عمي كمي نجح مخي"),
   (0xFDBA, "لجم كمم لجم نجح جحي حجي مجي فمي بحي كمم عجم صمم سخي نجي"),
   (0xFDF0, "صلے قلے الله اكبر محمد صلعم رسول عليه وسلم صلى � � ریال"),
   (0xFE10, ", 、 � : ; ! ? 〖 〗"),
   (0xFE31, "— – _ _ ( ) \x7b \x7d 〔 〕 【 】 《 》 〈 〉 「 」 『 』 ﹅ ﹆ [ ] � � � � _ _ _ , 、 � � ; : ? !"),
   (0xFE58, "— ( ) \x7b \x7d 〔 〕 # & * + - < > = � \\ $ % @"),
   (0xFE70, "� ـً � ﹳ � � � ـَ � ـُ � ـِ � ـّ � ـْ ء آ آ أ أ ؤ ؤ إ إ ئ ئ ئ ئ ا ا ب ب ب ب ة ة ت ت"),
   (0xFE97, "ت ت ث ث ث ث ج ج ج ج ح ح ح ح خ خ خ خ د د ذ ذ ر ر ز ز س س س س ش ش ش ش ص ص ص ص ض ض ض ض"),
   (0xFEC1, "ط ط ط ط ظ ظ ظ ظ ع ع ع ع غ غ غ غ ف ف ف ف ق ق ق ق ك ك ك ك ل ل ل ل م م م م ن ن ن ن ه ه"),
   (0xFEEB, "ه ه و و ى ى ي ي ي ي لآ لآ لأ لأ لإ لإ لا لا"),
   (0xFF01, "! \" # $ % & ' ( ) * + , - . / 0 1 2 3 4 5 6 7 8 9 : ; < = > ? @ a b c d e f g h i"),
   (0xFF2A, "j k l m n o p q r s t u v w x y z [ \\ ] ^ _ \x60 a b c d e f g h i j k l m n o p q"),
   (0xFF52, "r s t u v w x y z \x7b | \x7d ~ ⦅ ⦆ . 「 」 、 ・ ヲ ァ ィ ゥ ェ ォ ャ ュ ョ ッ ー ア イ ウ エ オ カ キ ク"),
   (0xFF79, "ケ コ サ シ ス セ ソ タ チ ツ テ ト ナ ニ ヌ ネ ノ ハ ヒ フ ヘ ホ マ ミ ム メ モ ヤ ユ ヨ ラ リ ル レ ロ ワ ン ゙ ゚"),
   (0xFFA1, "ᄀ ᄁ ᆪ ᄂ ᆬ ᆭ ᄃ ᄄ ᄅ ᆰ ᆱ ᆲ ᆳ ᆴ ᆵ ᄚ ᄆ ᄇ ᄈ ᄡ ᄉ ᄊ ᄋ ᄌ ᄍ ᄎ ᄏ ᄐ ᄑ ᄒ � � � ᅡ ᅢ ᅣ ᅤ ᅥ ᅦ � � ᅧ"),
   (0xFFCB, "ᅨ ᅩ ᅪ ᅫ ᅬ � � ᅭ ᅮ ᅯ ᅰ ᅱ ᅲ � � ᅳ ᅴ ᅵ � � � ¢ £ ¬ � ¦ ¥ ₩ � │ ← ↑ → ↓ ■ ○")]

end Parley.Url.HostName
