/-!
# Forms of symbols in host names

Rows as those of letters: letters and numbers in circles, brackets and squares, mathematical
alphabets, units, syllables and radicals stand for their plain forms.
-/

namespace Parley.Url.HostName

/-- Symbols and signs of the basic plane. -/
def symbolForms : List (Nat × String) := [
  (0x2011, "‐"),
   (0x2017, "�"),
   (0x202F, "� ‰ ‱ ′ ′′ ′′′ ‵ ‵‵ ‵‵‵"),
   (0x203C, "!! ‽ �"),
   (0x2047, "?? ?! !?"),
   (0x2057, "′′′′"),
   (0x205F, "�"),
   (0x2070, "0 i � � 4 5 6 7 8 9 + − = ( ) n 0 1 2 3 4 5 6 7 8 9 + − = ( ) � a e o x ə h k l m n"),
   (0x209A, "p s t"),
   (0x20A8, "rs"),
   (0x2100, "a/c a/s c °c ℄ c/o c/u ɛ ℈ °f g h h h h ħ i i l l ℔ n no ℗ ℘ p q r r r ℞ ℟ sm tel"),
   (0x2122, "tm ℣ z ℥ ω ℧ z ℩ k å b c ℮ e e f ⅎ m o א ב ג ד i ℺ fax π γ γ π ∑"),
   (0x2145, "d d e i j"),
   (0x2150, "1⁄7 1⁄9 1⁄10 1⁄3 2⁄3 1⁄5 2⁄5 3⁄5 4⁄5 1⁄6 5⁄6 1⁄8 3⁄8 5⁄8 7⁄8 1⁄ i ii iii iv v vi"),
   (0x2166, "vii viii ix x xi xii l c d m i ii iii iv v vi vii viii ix x xi xii l c d m ↀ ↁ ↂ ↄ"),
   (0x2189, "0⁄3"),
   (0x222C, "∫∫ ∫∫∫ ∮ ∮∮ ∮∮∮"),
   (0x2329, "〈 〉"),
   (0x2460, "1 2 3 4 5 6 7 8 9 10 11 12 13 14 15 16 17 18 19 20 (1) (2) (3) (4) (5) (6) (7) (8)"),
   (0x247C, "(9) (10) (11) (12) (13) (14) (15) (16) (17) (18) (19) (20)"),
   (0x249C, "(a) (b) (c) (d) (e) (f) (g) (h) (i) (j) (k) (l) (m) (n) (o) (p) (q) (r) (s) (t) (u)"),
   (0x24B1, "(v) (w) (x) (y) (z) a b c d e f g h i j k l m n o p q r s t u v w x y z a b c d e f"),
   (0x24D6, "g h i j k l m n o p q r s t u v w x y z 0"),
   (0x2A0C, "∫∫∫∫"),
   (0x2A74, "::= == ==="),
   (0x2ADC, "⫝̸"),
   (0x2C00, "ⰰ ⰱ ⰲ ⰳ ⰴ ⰵ ⰶ ⰷ ⰸ ⰹ ⰺ ⰻ ⰼ ⰽ ⰾ ⰿ ⱀ ⱁ ⱂ ⱃ ⱄ ⱅ ⱆ ⱇ ⱈ ⱉ ⱊ ⱋ ⱌ ⱍ ⱎ ⱏ ⱐ ⱑ ⱒ ⱓ ⱔ ⱕ ⱖ ⱗ ⱘ ⱙ"),
   (0x2C2A, "ⱚ ⱛ ⱜ ⱝ ⱞ ⱟ"),
   (0x2C60, "ⱡ ⱡ ɫ ᵽ ɽ ⱥ ⱦ ⱨ ⱨ ⱪ ⱪ ⱬ ⱬ ɑ ɱ ɐ ɒ ⱱ ⱳ ⱳ ⱴ ⱶ"),
   (0x2C7C, "j v ȿ ɀ ⲁ ⲁ ⲃ ⲃ ⲅ ⲅ ⲇ ⲇ ⲉ ⲉ ⲋ ⲋ ⲍ ⲍ ⲏ ⲏ ⲑ ⲑ ⲓ ⲓ ⲕ ⲕ ⲗ ⲗ ⲙ ⲙ ⲛ ⲛ ⲝ ⲝ ⲟ ⲟ ⲡ ⲡ ⲣ ⲣ ⲥ ⲥ"),
   (0x2CA6, "ⲧ ⲧ ⲩ ⲩ ⲫ ⲫ ⲭ ⲭ ⲯ ⲯ ⲱ ⲱ ⲳ ⲳ ⲵ ⲵ ⲷ ⲷ ⲹ ⲹ ⲻ ⲻ ⲽ ⲽ ⲿ ⲿ ⳁ ⳁ ⳃ ⳃ ⳅ ⳅ ⳇ ⳇ ⳉ ⳉ ⳋ ⳋ ⳍ ⳍ ⳏ ⳏ"),
   (0x2CD0, "ⳑ ⳑ ⳓ ⳓ ⳕ ⳕ ⳗ ⳗ ⳙ ⳙ ⳛ ⳛ ⳝ ⳝ ⳟ ⳟ ⳡ ⳡ ⳣ"),
   (0x2CEB, "ⳬ ⳬ ⳮ"),
   (0x2CF2, "ⳳ"),
   (0x2D6F, "ⵡ"),
   (0x2E9F, "母"),
   (0x2EF3, "龟"),
   (0x2F00, "一 丨 丶 丿 乙 亅 二 亠 人 儿 入 八 冂 冖 冫 几 凵 刀 力 勹 匕 匚 匸 十 卜 卩 厂 厶 又 口 囗 土 士 夂 夊 夕 大 女 子 宀 寸 小"),
   (0x2F2A, "尢 尸 屮 山 巛 工 己 巾 干 幺 广 廴 廾 弋 弓 彐 彡 彳 心 戈 戶 手 支 攴 文 斗 斤 方 无 日 曰 月 木 欠 止 歹 殳 毋 比 毛 氏 气"),
   (0x2F54, "水 火 爪 父 爻 爿 片 牙 牛 犬 玄 玉 瓜 瓦 甘 生 用 田 疋 疒 癶 白 皮 皿 目 矛 矢 石 示 禸 禾 穴 立 竹 米 糸 缶 网 羊 羽 老 而"),
   (0x2F7E, "耒 耳 聿 肉 臣 自 至 臼 舌 舛 舟 艮 色 艸 虍 虫 血 行 衣 襾 見 角 言 谷 豆 豕 豸 貝 赤 走 足 身 車 辛 辰 辵 邑 酉 釆 里 金 長"),
   (0x2FA8, "門 阜 隶 隹 雨 靑 非 面 革 韋 韭 音 頁 風 飛 食 首 香 馬 骨 高 髟 鬥 鬯 鬲 鬼 魚 鳥 鹵 鹿 麥 麻 黃 黍 黑 黹 黽 鼎 鼓 鼠 鼻 齊"),
   (0x2FD2, "齒 龍 龜 龠"),
   (0x3000, "� 、 ."),
   (0x3036, "〒 〷 十 卄 卅"),
   (0x309B, "� � ゝ ゞ より"),
   (0x30FF, "コト"),
   (0x3131, "ᄀ ᄁ ᆪ ᄂ ᆬ ᆭ ᄃ ᄄ ᄅ ᆰ ᆱ ᆲ ᆳ ᆴ ᆵ ᄚ ᄆ ᄇ ᄈ ᄡ ᄉ ᄊ ᄋ ᄌ ᄍ ᄎ ᄏ ᄐ ᄑ ᄒ ᅡ ᅢ ᅣ ᅤ ᅥ ᅦ ᅧ ᅨ ᅩ ᅪ ᅫ ᅬ"),
   (0x315B, "ᅭ ᅮ ᅯ ᅰ ᅱ ᅲ ᅳ ᅴ ᅵ"),
   (0x3165, "ᄔ ᄕ ᇇ ᇈ ᇌ ᇎ ᇓ ᇗ ᇙ ᄜ ᇝ ᇟ ᄝ ᄞ ᄠ ᄢ ᄣ ᄧ ᄩ ᄫ ᄬ ᄭ ᄮ ᄯ ᄲ ᄶ ᅀ ᅇ ᅌ ᇱ ᇲ ᅗ ᅘ ᅙ ᆄ ᆅ ᆈ ᆑ ᆒ ᆔ ᆞ ᆡ"),
   (0x318F, "� ㆐ ㆑ 一 二 三 四 上 中 下 甲 乙 丙 丁 天 地 人"),
   (0x3200, "(ᄀ) (ᄂ) (ᄃ) (ᄅ) (ᄆ) (ᄇ) (ᄉ) (ᄋ) (ᄌ) (ᄎ) (ᄏ) (ᄐ) (ᄑ) (ᄒ) (가) (나) (다) (라) (마) (바) (사)"),
   (0x3215, "(아) (자) (차) (카) (타) (파) (하) (주) (오전) (오후) � (一) (二) (三) (四) (五) (六) (七) (八) (九) (十)"),
   (0x322A, "(月) (火) (水) (木) (金) (土) (日) (株) (有) (社) (名) (特) (財) (祝) (労) (代) (呼) (学) (監) (企) (資)"),
   (0x323F, "(協) (祭) (休) (自) (至) 問 幼 文 箏"),
   (0x3250, "pte 21 22 23 24 25 26 27 28 29 30 31 32 33 34 35 ᄀ ᄂ ᄃ ᄅ ᄆ ᄇ ᄉ ᄋ ᄌ ᄎ ᄏ ᄐ ᄑ ᄒ 가 나 다"),
   (0x3271, "라 마 바 사 아 자 차 카 타 파 하 참고 주의 우 ㉿ 一 二 三 四 五 六 七 八 九 十 月 火 水 木 金 土 日 株 有 社 名 特 財 祝 労 秘"),
   (0x329A, "男 女 適 優 印 注 項 休 写 正 上 中 下 左 右 医 宗 学 監 企 資 協 夜 36 37 38 39 40 41 42 43 44 45 46 47"),
   (0x32BD, "48 49 50 1月 2月 3月 4月 5月 6月 7月 8月 9月 10月 11月 12月 hg erg ev ltd ア イ ウ エ オ カ キ ク ケ コ サ"),
   (0x32DB, "シ ス セ ソ タ チ ツ テ ト ナ ニ ヌ ネ ノ ハ ヒ フ ヘ ホ マ ミ ム メ モ ヤ ユ ヨ ラ リ ル レ ロ ワ ヰ ヱ ヲ 令和 アパート"),
   (0x3301, "アルファ アンペア アール イニング インチ ウォン エスクード エーカー オンス オーム カイリ カラット カロリー ガロン ガンマ ギガ ギニー キュリー"),
   (0x3313, "ギルダー キロ キログラム キロメートル キロワット グラム グラムトン クルゼイロ クローネ ケース コルナ コーポ サイクル サンチーム シリング センチ セント"),
   (0x3324, "ダース デシ ドル トン ナノ ノット ハイツ パーセント パーツ バーレル ピアストル ピクル ピコ ビル ファラッド フィート ブッシェル フラン ヘクタール"),
   (0x3337, "ペソ ペニヒ ヘルツ ペンス ページ ベータ ポイント ボルト ホン ポンド ホール ホーン マイクロ マイル マッハ マルク マンション ミクロン ミリ ミリバール"),
   (0x334B, "メガ メガトン メートル ヤード ヤール ユアン リットル リラ ルピー ルーブル レム レントゲン ワット 0点 1点 2点 3点 4点 5点 6点 7点 8点"),
   (0x3361, "9点 10点 11点 12点 13点 14点 15点 16点 17点 18点 19点 20点 21点 22点 23点 24点 hpa da au bar ov pc"),
   (0x3377, "dm dm2 dm3 iu 平成 昭和 大正 明治 株式会社 pa na μa ma ka kb mb gb cal kcal pf nf μf μg mg kg"),
   (0x3390, "hz khz mhz ghz thz μl ml dl kl fm nm μm mm cm km mm2 cm2 m2 km2 mm3 cm3 m3 km3 m∕s"),
   (0x33A8, "m∕s2 pa kpa mpa gpa rad rad∕s rad∕s2 ps ns μs ms pv nv μv mv kv mv pw nw μw mw kw"),
   (0x33BF, "mw kω mω � bq cc cd c∕kg � db gy ha hp in kk km kt lm ln log lx mb mil mol ph � ppm"),
   (0x33DA, "pr sr sv wb v∕m a∕m 1日 2日 3日 4日 5日 6日 7日 8日 9日 10日 11日 12日 13日 14日 15日 16日 17日 18日"),
   (0x33F2, "19日 20日 21日 22日 23日 24日 25日 26日 27日 28日 29日 30日 31日 gal"),
   (0xA640, "ꙁ ꙁ ꙃ ꙃ ꙅ ꙅ ꙇ ꙇ ꙉ ꙉ ꙋ ꙋ ꙍ ꙍ ꙏ ꙏ ꙑ ꙑ ꙓ ꙓ ꙕ ꙕ ꙗ ꙗ ꙙ ꙙ ꙛ ꙛ ꙝ ꙝ ꙟ ꙟ ꙡ ꙡ ꙣ ꙣ ꙥ ꙥ ꙧ ꙧ ꙩ ꙩ"),
   (0xA66A, "ꙫ ꙫ ꙭ"),
   (0xA680, "ꚁ ꚁ ꚃ ꚃ ꚅ ꚅ ꚇ ꚇ ꚉ ꚉ ꚋ ꚋ ꚍ ꚍ ꚏ ꚏ ꚑ ꚑ ꚓ ꚓ ꚕ ꚕ ꚗ ꚗ ꚙ ꚙ ꚛ ꚛ ъ ь"),
   (0xA722, "ꜣ ꜣ ꜥ ꜥ ꜧ ꜧ ꜩ ꜩ ꜫ ꜫ ꜭ ꜭ ꜯ ꜯ ꜰ ꜱ ꜳ ꜳ ꜵ ꜵ ꜷ ꜷ ꜹ ꜹ ꜻ ꜻ ꜽ ꜽ ꜿ ꜿ ꝁ ꝁ ꝃ ꝃ ꝅ ꝅ ꝇ ꝇ ꝉ ꝉ ꝋ ꝋ"),
   (0xA74C, "ꝍ ꝍ ꝏ ꝏ ꝑ ꝑ ꝓ ꝓ ꝕ ꝕ ꝗ ꝗ ꝙ ꝙ ꝛ ꝛ ꝝ ꝝ ꝟ ꝟ ꝡ ꝡ ꝣ ꝣ ꝥ ꝥ ꝧ ꝧ ꝩ ꝩ ꝫ ꝫ ꝭ ꝭ ꝯ ꝯ ꝯ"),
   (0xA779, "ꝺ ꝺ ꝼ ꝼ ᵹ ꝿ ꝿ ꞁ ꞁ ꞃ ꞃ ꞅ ꞅ ꞇ"),
   (0xA78B, "ꞌ ꞌ ɥ ꞎ ꞏ ꞑ ꞑ ꞓ ꞓ ꞔ ꞕ ꞗ ꞗ ꞙ ꞙ ꞛ ꞛ ꞝ ꞝ ꞟ ꞟ ꞡ ꞡ ꞣ ꞣ ꞥ ꞥ ꞧ ꞧ ꞩ ꞩ ɦ ɜ ɡ ɬ ɪ ꞯ ʞ ʇ ʝ ꭓ ꞵ"),
   (0xA7B5, "ꞵ ꞷ ꞷ ꞹ ꞹ ꞻ ꞻ ꞽ ꞽ ꞿ ꞿ ꟁ ꟁ ꟃ ꟃ ꞔ ʂ ᶎ ꟈ ꟈ ꟊ ꟊ ɤ ꟍ ꟍ ꟏ ꟏ ꟑ ꟑ ꟓ ꟓ ꟕ ꟕ ꟗ ꟗ ꟙ ꟙ ꟛ ꟛ ƛ"),
   (0xA7F1, "s c f q ꟶ ꟶ ꟷ ħ œ"),
   (0xAB5C, "ꜧ ꬷ ɫ ꭒ"),
   (0xAB69, "ʍ"),
   (0xAB70, "Ꭰ Ꭱ Ꭲ Ꭳ Ꭴ Ꭵ Ꭶ Ꭷ Ꭸ Ꭹ Ꭺ Ꭻ Ꭼ Ꭽ Ꭾ Ꭿ Ꮀ Ꮁ Ꮂ Ꮃ Ꮄ Ꮅ Ꮆ Ꮇ Ꮈ Ꮉ Ꮊ Ꮋ Ꮌ Ꮍ Ꮎ Ꮏ Ꮐ Ꮑ Ꮒ Ꮓ Ꮔ Ꮕ Ꮖ Ꮗ Ꮘ Ꮙ"),
   (0xAB9A, "Ꮚ Ꮛ Ꮜ Ꮝ Ꮞ Ꮟ Ꮠ Ꮡ Ꮢ Ꮣ Ꮤ Ꮥ Ꮦ Ꮧ Ꮨ Ꮩ Ꮪ Ꮫ Ꮬ Ꮭ Ꮮ Ꮯ Ꮰ Ꮱ Ꮲ Ꮳ Ꮴ Ꮵ Ꮶ Ꮷ Ꮸ Ꮹ Ꮺ Ꮻ Ꮼ Ꮽ Ꮾ Ꮿ")]

/-- Letters of the supplementary planes. -/
def supplementaryForms : List (Nat × String) := [
  (0x10400, "𐐨 𐐩 𐐪 𐐫 𐐬 𐐭 𐐮 𐐯 𐐰 𐐱 𐐲 𐐳 𐐴 𐐵 𐐶 𐐷 𐐸 𐐹 𐐺 𐐻 𐐼 𐐽 𐐾 𐐿 𐑀 𐑁 𐑂 𐑃 𐑄 𐑅 𐑆 𐑇 𐑈 𐑉 𐑊 𐑋 𐑌 𐑍 𐑎 𐑏"),
   (0x104B0, "𐓘 𐓙 𐓚 𐓛 𐓜 𐓝 𐓞 𐓟 𐓠 𐓡 𐓢 𐓣 𐓤 𐓥 𐓦 𐓧 𐓨 𐓩 𐓪 𐓫 𐓬 𐓭 𐓮 𐓯 𐓰 𐓱 𐓲 𐓳 𐓴 𐓵 𐓶 𐓷 𐓸 𐓹 𐓺 𐓻"),
   (0x10570, "𐖗 𐖘 𐖙 𐖚 𐖛 𐖜 𐖝 𐖞 𐖟 𐖠 𐖡 � 𐖣 𐖤 𐖥 𐖦 𐖧 𐖨 𐖩 𐖪 𐖫 𐖬 𐖭 𐖮 𐖯 𐖰 𐖱 � 𐖳 𐖴 𐖵 𐖶 𐖷 𐖸 𐖹 � 𐖻 𐖼"),
   (0x10781, "ː ˑ æ ʙ ɓ � ʣ ꭦ ʥ ʤ ɖ ɗ ᶑ ɘ ɞ ʩ ɤ ɢ ɠ ʛ ħ ʜ ɧ ʄ ʪ ʫ ɬ 𝼄 ꞎ ɮ 𝼅 ʎ 𝼆 ø ɶ ɷ q ɺ 𝼈 ɽ ɾ"),
   (0x107AA, "ʀ ʨ ʦ ꭧ ʧ ʈ ⱱ � ʏ ʡ ʢ ʘ ǀ ǁ ǂ 𝼊 𝼞"),
   (0x10C80, "𐳀 𐳁 𐳂 𐳃 𐳄 𐳅 𐳆 𐳇 𐳈 𐳉 𐳊 𐳋 𐳌 𐳍 𐳎 𐳏 𐳐 𐳑 𐳒 𐳓 𐳔 𐳕 𐳖 𐳗 𐳘 𐳙 𐳚 𐳛 𐳜 𐳝 𐳞 𐳟 𐳠 𐳡 𐳢 𐳣 𐳤 𐳥 𐳦 𐳧 𐳨"),
   (0x10CA9, "𐳩 𐳪 𐳫 𐳬 𐳭 𐳮 𐳯 𐳰 𐳱 𐳲"),
   (0x10D50, "𐵰 𐵱 𐵲 𐵳 𐵴 𐵵 𐵶 𐵷 𐵸 𐵹 𐵺 𐵻 𐵼 𐵽 𐵾 𐵿 𐶀 𐶁 𐶂 𐶃 𐶄 𐶅"),
   (0x118A0, "𑣀 𑣁 𑣂 𑣃 𑣄 𑣅 𑣆 𑣇 𑣈 𑣉 𑣊 𑣋 𑣌 𑣍 𑣎 𑣏 𑣐 𑣑 𑣒 𑣓 𑣔 𑣕 𑣖 𑣗 𑣘 𑣙 𑣚 𑣛 𑣜 𑣝 𑣞 𑣟"),
   (0x16E40, "𖹠 𖹡 𖹢 𖹣 𖹤 𖹥 𖹦 𖹧 𖹨 𖹩 𖹪 𖹫 𖹬 𖹭 𖹮 𖹯 𖹰 𖹱 𖹲 𖹳 𖹴 𖹵 𖹶 𖹷 𖹸 𖹹 𖹺 𖹻 𖹼 𖹽 𖹾 𖹿"),
   (0x16EA0, "𖺻 𖺼 𖺽 𖺾 𖺿 𖻀 𖻁 𖻂 𖻃 𖻄 𖻅 𖻆 𖻇 𖻈 𖻉 𖻊 𖻋 𖻌 𖻍 𖻎 𖻏 𖻐 𖻑 𖻒 𖻓"),
   (0x1CCD6, "a b c d e f g h i j k l m n o p q r s t u v w x y z 0 1 2 3 4 5 6 7 8 9"),
   (0x1D15E, "𝅗𝅥 𝅘𝅥 𝅘𝅥𝅮 𝅘𝅥𝅯 𝅘𝅥𝅰 𝅘𝅥𝅱 𝅘𝅥𝅲"),
   (0x1D1BB, "𝆹𝅥 𝆺𝅥 𝆹𝅥𝅮 𝆺𝅥𝅮 𝆹𝅥𝅯 𝆺𝅥𝅯"),
   (0x1D400, "a b c d e f g h i j k l m n o p q r s t u v w x y z a b c d e f g h i j k l m n o"),
   (0x1D429, "p q r s t u v w x y z a b c d e f g h i j k l m n o p q r s t u v w x y z a b c d"),
   (0x1D452, "e f g � i j k l m n o p q r s t u v w x y z a b c d e f g h i j k l m n o p q r s"),
   (0x1D47B, "t u v w x y z a b c d e f g h i j k l m n o p q r s t u v w x y z a � c d � � g �"),
   (0x1D4A4, "� j k � � n o p q � s t u v w x y z a b c d � f � h i j k l m n � p q r s t u v w"),
   (0x1D4CD, "x y z a b c d e f g h i j k l m n o p q r s t u v w x y z a b c d e f g h i j k l"),
   (0x1D4F6, "m n o p q r s t u v w x y z a b � d e f g � � j k l m n o p q � s t u v w x y � a"),
   (0x1D51F, "b c d e f g h i j k l m n o p q r s t u v w x y z a b � d e f g � i j k l m � o �"),
   (0x1D548, "� � s t u v w x y � a b c d e f g h i j k l m n o p q r s t u v w x y z a b c d e"),
   (0x1D571, "f g h i j k l m n o p q r s t u v w x y z a b c d e f g h i j k l m n o p q r s t"),
   (0x1D59A, "u v w x y z a b c d e f g h i j k l m n o p q r s t u v w x y z a b c d e f g h i"),
   (0x1D5C3, "j k l m n o p q r s t u v w x y z a b c d e f g h i j k l m n o p q r s t u v w x"),
   (0x1D5EC, "y z a b c d e f g h i j k l m n o p q r s t u v w x y z a b c d e f g h i j k l m"),
   (0x1D615, "n o p q r s t u v w x y z a b c d e f g h i j k l m n o p q r s t u v w x y z a b"),
   (0x1D63E, "c d e f g h i j k l m n o p q r s t u v w x y z a b c d e f g h i j k l m n o p q"),
   (0x1D667, "r s t u v w x y z a b c d e f g h i j k l m n o p q r s t u v w x y z a b c d e f"),
   (0x1D690, "g h i j k l m n o p q r s t u v w x y z ı ȷ � � α β γ δ ε ζ η θ ι κ λ μ ν ξ ο π ρ"),
   (0x1D6B9, "θ σ τ υ φ χ ψ ω ∇ α β γ δ ε ζ η θ ι κ λ μ ν ξ ο π ρ σ σ τ υ φ χ ψ ω ∂ ε θ κ φ ρ π"),
   (0x1D6E2, "α β γ δ ε ζ η θ ι κ λ μ ν ξ ο π ρ θ σ τ υ φ χ ψ ω ∇ α β γ δ ε ζ η θ ι κ λ μ ν ξ ο"),
   (0x1D70B, "π ρ σ σ τ υ φ χ ψ ω ∂ ε θ κ φ ρ π α β γ δ ε ζ η θ ι κ λ μ ν ξ ο π ρ θ σ τ υ φ χ ψ"),
   (0x1D734, "ω ∇ α β γ δ ε ζ η θ ι κ λ μ ν ξ ο π ρ σ σ τ υ φ χ ψ ω ∂ ε θ κ φ ρ π α β γ δ ε ζ η"),
   (0x1D75D, "θ ι κ λ μ ν ξ ο π ρ θ σ τ υ φ χ ψ ω ∇ α β γ δ ε ζ η θ ι κ λ μ ν ξ ο π ρ σ σ τ υ φ"),
   (0x1D786, "χ ψ ω ∂ ε θ κ φ ρ π α β γ δ ε ζ η θ ι κ λ μ ν ξ ο π ρ θ σ τ υ φ χ ψ ω ∇ α β γ δ ε"),
   (0x1D7AF, "ζ η θ ι κ λ μ ν ξ ο π ρ σ σ τ υ φ χ ψ ω ∂ ε θ κ φ ρ π ϝ ϝ � � 0 1 2 3 4 5 6 7 8 9"),
   (0x1D7D8, "0 1 2 3 4 5 6 7 8 9 0 1 2 3 4 5 6 7 8 9 0 1 2 3 4 5 6 7 8 9 0 1 2 3 4 5 6 7 8 9"),
   (0x1E030, "а б в г д е ж з и к л м о п р с т у ф х ц ч ш ы э ю ꚉ ә і ј ө ү ӏ а б в г д е ж з"),
   (0x1E059, "и к л о п с у ф х ц ч ш ъ ы ґ і ѕ џ ҫ ꙑ ұ"),
   (0x1E900, "𞤢 𞤣 𞤤 𞤥 𞤦 𞤧 𞤨 𞤩 𞤪 𞤫 𞤬 𞤭 𞤮 𞤯 𞤰 𞤱 𞤲 𞤳 𞤴 𞤵 𞤶 𞤷 𞤸 𞤹 𞤺 𞤻 𞤼 𞤽 𞤾 𞤿 𞥀 𞥁 𞥂 𞥃"),
   (0x1EE00, "ا ب ج د � و ز ح ط ي ك ل م ن س ع ف ص ق ر ش ت ث خ ذ ض ظ غ ٮ ں ڡ ٯ � ب ج � ه � � ح �"),
   (0x1EE29, "ي ك ل م ن س ع ف ص ق � ش ت ث خ � ض � غ"),
   (0x1EE42, "ج"),
   (0x1EE47, "ح � ي � ل � ن س ع � ص ق � ش � � خ � ض � غ � ں � ٯ � ب ج � ه � � ح ط ي ك � م ن س ع"),
   (0x1EE70, "ف ص ق � ش ت ث خ � ض ظ غ ٮ � ڡ � ا ب ج د ه و ز ح ط ي � ل م ن س ع ف ص ق ر ش ت ث خ ذ"),
   (0x1EE99, "ض ظ غ"),
   (0x1EEA1, "ب ج د � و ز ح ط ي � ل م ن س ع ف ص ق ر ش ت ث خ ذ ض ظ غ"),
   (0x1F101, "0, 1, 2, 3, 4, 5, 6, 7, 8, 9,"),
   (0x1F110, "(a) (b) (c) (d) (e) (f) (g) (h) (i) (j) (k) (l) (m) (n) (o) (p) (q) (r) (s) (t)"),
   (0x1F124, "(u) (v) (w) (x) (y) (z) 〔s〕 c r cd wz 🄯 a b c d e f g h i j k l m n o p q r s t u"),
   (0x1F145, "v w x y z hv mv sd ss ppv wc"),
   (0x1F16A, "mc md mr"),
   (0x1F190, "dj"),
   (0x1F200, "ほか ココ サ"),
   (0x1F210, "手 字 双 デ 二 多 解 天 交 映 無 料 前 後 再 新 初 終 生 販 声 吹 演 投 捕 一 三 遊 左 中 右 指 走 打 禁 空 合 満 有 月 申"),
   (0x1F239, "割 営 配"),
   (0x1F240, "〔本〕 〔三〕 〔二〕 〔安〕 〔点〕 〔打〕 〔盗〕 〔勝〕 〔敗〕"),
   (0x1F250, "得 可"),
   (0x1FBF0, "0 1 2 3 4 5 6 7 8 9")]

end Parley.Url.HostName
