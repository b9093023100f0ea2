import StaticSite.Text.Basic

/-!
# ASCII folding

The ASCII characters in the compatibility decomposition of a character: an accented letter
folds to its letter, a ligature to its parts, and a character without an ASCII part to
nothing.
-/

namespace StaticSite

namespace Text

/-- The characters beyond ASCII that have an ASCII part, grouped by that part. -/
def asciiParts : List (String × String) := [
  (" ", "\u00A0¨¯´¸˘˙˚˛˜˝ͺ΄΅᾽᾿῀῁῍῎῏῝῞῟῭΅´῾\u2000\u2001\u2002\u2003\u2004\u2005\u2006\u2007\u2008\u2009\u200A‗"),
  (" ", "\u202F‾\u205F\u3000゛゜\uFC5E\uFC5F\uFC60\uFC61\uFC62\uFC63\uFDFB﹉﹊﹋﹌\uFE70\uFE72\uFE74\uFE76\uFE78\uFE7A\uFE7C\uFE7E￣"),
  ("a", "ªàáâãäåāăąǎǟǡǻȁȃȧᵃḁẚạảấầẩẫậắằẳẵặₐⓐａ𝐚𝑎𝒂𝒶𝓪"),
  ("a", "𝔞𝕒𝖆𝖺𝗮𝘢𝙖𝚊"),
  ("2", "²₂②㋁㍚㏡２𝟐𝟚𝟤𝟮𝟸🯲"),
  ("3", "³₃③㋂㍛㏢３𝟑𝟛𝟥𝟯𝟹🯳"),
  ("1", "¹₁⅟①㋀㍙㏠１𝟏𝟙𝟣𝟭𝟷🯱"),
  ("o", "ºòóôõöōŏőơǒǫǭȍȏȫȭȯȱᵒṍṏṑṓọỏốồổỗộớờởỡợₒℴⓞｏ"),
  ("o", "𝐨𝑜𝒐𝓸𝔬𝕠𝖔𝗈𝗼𝘰𝙤𝚘"),
  ("14", "¼⑭㍦㏭"),
  ("12", "½⑫㋋㍤㏫"),
  ("34", "¾㉞"),
  ("A", "ÀÁÂÃÄÅĀĂĄǍǞǠǺȀȂȦᴬḀẠẢẤẦẨẪẬẮẰẲẴẶÅⒶ㎂Ａ𝐀𝐴𝑨𝒜𝓐𝔄"),
  ("A", "𝔸𝕬𝖠𝗔𝘈𝘼𝙰🄰"),
  ("C", "ÇĆĈĊČḈℂ℃ℭⅭⒸꟲＣ𝐂𝐶𝑪𝒞𝓒𝕮𝖢𝗖𝘊𝘾𝙲🄫🄲"),
  ("E", "ÈÉÊËĒĔĖĘĚȄȆȨᴱḔḖḘḚḜẸẺẼẾỀỂỄỆℰⒺＥ𝐄𝐸𝑬𝓔𝔈𝔼𝕰𝖤𝗘𝘌𝙀"),
  ("E", "𝙴🄴"),
  ("I", "ÌÍÎÏĨĪĬĮİǏȈȊᴵḬḮỈỊℐℑⅠⒾＩ𝐈𝐼𝑰𝓘𝕀𝕴𝖨𝗜𝘐𝙄𝙸🄸"),
  ("N", "ÑŃŅŇǸᴺṄṆṈṊℕⓃＮ𝐍𝑁𝑵𝒩𝓝𝔑𝕹𝖭𝗡𝘕𝙉𝙽🄽"),
  ("O", "ÒÓÔÕÖŌŎŐƠǑǪǬȌȎȪȬȮȰᴼṌṎṐṒỌỎỐỒỔỖỘỚỜỞỠỢⓄＯ𝐎𝑂𝑶"),
  ("O", "𝒪𝓞𝔒𝕆𝕺𝖮𝗢𝘖𝙊𝙾🄾"),
  ("U", "ÙÚÛÜŨŪŬŮŰŲƯǓǕǗǙǛȔȖᵁṲṴṶṸṺỤỦỨỪỬỮỰⓊＵ𝐔𝑈𝑼𝒰𝓤𝔘𝕌"),
  ("U", "𝖀𝖴𝗨𝘜𝙐𝚄🅄"),
  ("Y", "ÝŶŸȲẎỲỴỶỸⓎＹ𝐘𝑌𝒀𝒴𝓨𝔜𝕐𝖄𝖸𝗬𝘠𝙔𝚈🅈"),
  ("c", "çćĉċčᶜḉⅽⓒｃ𝐜𝑐𝒄𝒸𝓬𝔠𝕔𝖈𝖼𝗰𝘤𝙘𝚌"),
  ("e", "èéêëēĕėęěȅȇȩᵉḕḗḙḛḝẹẻẽếềểễệₑℯⅇⓔｅ𝐞𝑒𝒆𝓮𝔢𝕖𝖊𝖾𝗲"),
  ("e", "𝘦𝙚𝚎"),
  ("i", "ìíîïĩīĭįǐȉȋᵢḭḯỉịⁱℹⅈⅰⓘｉ𝐢𝑖𝒊𝒾𝓲𝔦𝕚𝖎𝗂𝗶𝘪𝙞𝚒"),
  ("n", "ñńņňŉǹṅṇṉṋⁿₙⓝｎ𝐧𝑛𝒏𝓃𝓷𝔫𝕟𝖓𝗇𝗻𝘯𝙣𝚗"),
  ("u", "ùúûüũūŭůűųưǔǖǘǚǜȕȗᵘᵤṳṵṷṹṻụủứừửữựⓤｕ𝐮𝑢𝒖𝓊𝓾𝔲"),
  ("u", "𝕦𝖚𝗎𝘂𝘶𝙪𝚞"),
  ("y", "ýÿŷȳʸẏẙỳỵỷỹⓨｙ𝐲𝑦𝒚𝓎𝔂𝔶𝕪𝖞𝗒𝘆𝘺𝙮𝚢"),
  ("D", "ĎᴰḊḌḎḐḒⅅⅮⒹＤ𝐃𝐷𝑫𝒟𝓓𝔇𝔻𝕯𝖣𝗗𝘋𝘿𝙳🄳"),
  ("d", "ďᵈḋḍḏḑḓⅆⅾⓓｄ𝐝𝑑𝒅𝒹𝓭𝔡𝕕𝖉𝖽𝗱𝘥𝙙𝚍"),
  ("G", "ĜĞĠĢǦǴᴳḠⒼＧ𝐆𝐺𝑮𝒢𝓖𝔊𝔾𝕲𝖦𝗚𝘎𝙂𝙶🄶"),
  ("g", "ĝğġģǧǵᵍḡℊⓖ㎍ｇ𝐠𝑔𝒈𝓰𝔤𝕘𝖌𝗀𝗴𝘨𝙜𝚐"),
  ("H", "ĤȞᴴḢḤḦḨḪℋℌℍⒽＨ𝐇𝐻𝑯𝓗𝕳𝖧𝗛𝘏𝙃𝙷🄷"),
  ("h", "ĥȟʰḣḥḧḩḫẖₕℎⓗｈ𝐡𝒉𝒽𝓱𝔥𝕙𝖍𝗁𝗵𝘩𝙝𝚑"),
  ("IJ", "Ĳ"),
  ("ij", "ĳ"),
  ("J", "ĴᴶⒿＪ𝐉𝐽𝑱𝒥𝓙𝔍𝕁𝕵𝖩𝗝𝘑𝙅𝙹🄹"),
  ("j", "ĵǰʲⅉⓙⱼｊ𝐣𝑗𝒋𝒿𝓳𝔧𝕛𝖏𝗃𝗷𝘫𝙟𝚓"),
  ("K", "ĶǨᴷḰḲḴKⓀＫ𝐊𝐾𝑲𝒦𝓚𝔎𝕂𝕶𝖪𝗞𝘒𝙆𝙺🄺"),
  ("k", "ķǩᵏḱḳḵₖⓚ㏀ｋ𝐤𝑘𝒌𝓀𝓴𝔨𝕜𝖐𝗄𝗸𝘬𝙠𝚔"),
  ("L", "ĹĻĽĿᴸḶḸḺḼℒⅬⓁＬ𝐋𝐿𝑳𝓛𝔏𝕃𝕷𝖫𝗟𝘓𝙇𝙻🄻"),
  ("l", "ĺļľŀˡḷḹḻḽₗℓⅼⓛ㎕ｌ𝐥𝑙𝒍𝓁𝓵𝔩𝕝𝖑𝗅𝗹𝘭𝙡𝚕"),
  ("R", "ŔŖŘȐȒᴿṘṚṜṞℛℜℝⓇＲ𝐑𝑅𝑹𝓡𝕽𝖱𝗥𝘙𝙍𝚁🄬🅁"),
  ("r", "ŕŗřȑȓʳᵣṙṛṝṟⓡｒ𝐫𝑟𝒓𝓇𝓻𝔯𝕣𝖗𝗋𝗿𝘳𝙧𝚛"),
  ("S", "ŚŜŞŠȘṠṢṤṦṨⓈＳ𝐒𝑆𝑺𝒮𝓢𝔖𝕊𝕾𝖲𝗦𝘚𝙎𝚂🄪🅂"),
  ("s", "śŝşšſșˢṡṣṥṧṩẛₛⓢ㎲ｓ𝐬𝑠𝒔𝓈𝓼𝔰𝕤𝖘𝗌𝘀𝘴𝙨𝚜"),
  ("T", "ŢŤȚᵀṪṬṮṰⓉＴ𝐓𝑇𝑻𝒯𝓣𝔗𝕋𝕿𝖳𝗧𝘛𝙏𝚃🅃"),
  ("t", "ţťțᵗṫṭṯṱẗₜⓣｔ𝐭𝑡𝒕𝓉𝓽𝔱𝕥𝖙𝗍𝘁𝘵𝙩𝚝"),
  ("W", "ŴᵂẀẂẄẆẈⓌ㎼Ｗ𝐖𝑊𝑾𝒲𝓦𝔚𝕎𝖂𝖶𝗪𝘞𝙒𝚆🅆"),
  ("w", "ŵʷẁẃẅẇẉẘⓦｗ𝐰𝑤𝒘𝓌𝔀𝔴𝕨𝖜𝗐𝘄𝘸𝙬𝚠"),
  ("Z", "ŹŻŽẐẒẔℤℨⓏＺ𝐙𝑍𝒁𝒵𝓩𝖅𝖹𝗭𝘡𝙕𝚉🅉"),
  ("z", "źżžᶻẑẓẕⓩｚ𝐳𝑧𝒛𝓏𝔃𝔷𝕫𝖟𝗓𝘇𝘻𝙯𝚣"),
  ("DZ", "ǄǱ"),
  ("Dz", "ǅǲ"),
  ("dz", "ǆǳ"),
  ("LJ", "Ǉ"),
  ("Lj", "ǈ"),
  ("lj", "ǉ"),
  ("NJ", "Ǌ"),
  ("Nj", "ǋ"),
  ("nj", "ǌ"),
  ("x", "ˣẋẍₓⅹⓧｘ𝐱𝑥𝒙𝓍𝔁𝔵𝕩𝖝𝗑𝘅𝘹𝙭𝚡"),
  (";", ";︔﹔；"),
  ("B", "ᴮḂḄḆℬⒷＢ𝐁𝐵𝑩𝓑𝔅𝔹𝕭𝖡𝗕𝘉𝘽𝙱🄱"),
  ("M", "ᴹḾṀṂℳⅯⓂ㏁Ｍ𝐌𝑀𝑴𝓜𝔐𝕄𝕸𝖬𝗠𝘔𝙈𝙼🄼"),
  ("P", "ᴾṔṖℙⓅＰ𝐏𝑃𝑷𝒫𝓟𝔓𝕻𝖯𝗣𝘗𝙋𝙿🄿"),
  ("b", "ᵇḃḅḇⓑｂ𝐛𝑏𝒃𝒷𝓫𝔟𝕓𝖇𝖻𝗯𝘣𝙗𝚋"),
  ("m", "ᵐḿṁṃₘⅿⓜ㎛ｍ𝐦𝑚𝒎𝓂𝓶𝔪𝕞𝖒𝗆𝗺𝘮𝙢𝚖"),
  ("p", "ᵖṕṗₚⓟｐ𝐩𝑝𝒑𝓅𝓹𝔭𝕡𝖕𝗉𝗽𝘱𝙥𝚙"),
  ("v", "ᵛᵥṽṿⅴⓥｖ𝐯𝑣𝒗𝓋𝓿𝔳𝕧𝖛𝗏𝘃𝘷𝙫𝚟"),
  ("f", "ᶠḟⓕｆ𝐟𝑓𝒇𝒻𝓯𝔣𝕗𝖋𝖿𝗳𝘧𝙛𝚏"),
  ("F", "Ḟ℉ℱⒻ㎌ꟳＦ𝐅𝐹𝑭𝓕𝔉𝔽𝕱𝖥𝗙𝘍𝙁𝙵🄵"),
  ("V", "ṼṾⅤⓋⱽ㎶Ｖ𝐕𝑉𝑽𝒱𝓥𝔙𝕍𝖁𝖵𝗩𝘝𝙑𝚅🅅"),
  ("X", "ẊẌⅩⓍＸ𝐗𝑋𝑿𝒳𝓧𝔛𝕏𝖃𝖷𝗫𝘟𝙓𝚇🅇"),
  ("`", "`｀"),
  (".", "․﹒．"),
  ("..", "‥︰"),
  ("...", "…︙"),
  ("!!", "‼"),
  ("??", "⁇"),
  ("?!", "⁈"),
  ("!?", "⁉"),
  ("0", "⁰₀⓪㍘０𝟎𝟘𝟢𝟬𝟶🯰"),
  ("4", "⁴₄④㋃㍜㏣４𝟒𝟜𝟦𝟰𝟺🯴"),
  ("5", "⁵₅⑤㋄㍝㏤５𝟓𝟝𝟧𝟱𝟻🯵"),
  ("6", "⁶₆⑥㋅㍞㏥６𝟔𝟞𝟨𝟲𝟼🯶"),
  ("7", "⁷₇⑦㋆㍟㏦７𝟕𝟟𝟩𝟳𝟽🯷"),
  ("8", "⁸₈⑧㋇㍠㏧８𝟖𝟠𝟪𝟴𝟾🯸"),
  ("9", "⁹₉⑨㋈㍡㏨９𝟗𝟡𝟫𝟵𝟿🯹"),
  ("+", "⁺₊﬩﹢＋"),
  ("=", "⁼₌≠﹦＝"),
  ("(", "⁽₍︵﹙（"),
  (")", "⁾₎︶﹚）"),
  ("Rs", "₨"),
  ("a/c", "℀"),
  ("a/s", "℁"),
  ("c/o", "℅"),
  ("c/u", "℆"),
  ("No", "№"),
  ("Q", "ℚⓆꟴＱ𝐐𝑄𝑸𝒬𝓠𝔔𝕼𝖰𝗤𝘘𝙌𝚀🅀"),
  ("SM", "℠"),
  ("TEL", "℡"),
  ("TM", "™"),
  ("FAX", "℻"),
  ("17", "⅐⑰㍩㏰"),
  ("19", "⅑⑲㍫㏲"),
  ("110", "⅒"),
  ("13", "⅓⑬㍥㏬"),
  ("23", "⅔㉓㍯㏶"),
  ("15", "⅕⑮㍧㏮"),
  ("25", "⅖㉕㏸"),
  ("35", "⅗㉟"),
  ("45", "⅘㊺"),
  ("16", "⅙⑯㍨㏯"),
  ("56", "⅚"),
  ("18", "⅛⑱㍪㏱"),
  ("38", "⅜㊳"),
  ("58", "⅝"),
  ("78", "⅞"),
  ("II", "Ⅱ"),
  ("III", "Ⅲ"),
  ("IV", "Ⅳ"),
  ("VI", "Ⅵ"),
  ("VII", "Ⅶ"),
  ("VIII", "Ⅷ"),
  ("IX", "Ⅸ"),
  ("XI", "Ⅺ"),
  ("XII", "Ⅻ"),
  ("ii", "ⅱ"),
  ("iii", "ⅲ"),
  ("iv", "ⅳ"),
  ("vi", "ⅵ"),
  ("vii", "ⅶ"),
  ("viii", "ⅷ"),
  ("ix", "ⅸ"),
  ("xi", "ⅺ"),
  ("xii", "ⅻ"),
  ("03", "↉"),
  ("<", "≮﹤＜"),
  (">", "≯﹥＞"),
  ("10", "⑩㋉㍢㏩"),
  ("11", "⑪㋊㍣㏪"),
  ("20", "⑳㍬㏳"),
  ("(1)", "⑴"),
  ("(2)", "⑵"),
  ("(3)", "⑶"),
  ("(4)", "⑷"),
  ("(5)", "⑸"),
  ("(6)", "⑹"),
  ("(7)", "⑺"),
  ("(8)", "⑻"),
  ("(9)", "⑼"),
  ("(10)", "⑽"),
  ("(11)", "⑾"),
  ("(12)", "⑿"),
  ("(13)", "⒀"),
  ("(14)", "⒁"),
  ("(15)", "⒂"),
  ("(16)", "⒃"),
  ("(17)", "⒄"),
  ("(18)", "⒅"),
  ("(19)", "⒆"),
  ("(20)", "⒇"),
  ("1.", "⒈"),
  ("2.", "⒉"),
  ("3.", "⒊"),
  ("4.", "⒋"),
  ("5.", "⒌"),
  ("6.", "⒍"),
  ("7.", "⒎"),
  ("8.", "⒏"),
  ("9.", "⒐"),
  ("10.", "⒑"),
  ("11.", "⒒"),
  ("12.", "⒓"),
  ("13.", "⒔"),
  ("14.", "⒕"),
  ("15.", "⒖"),
  ("16.", "⒗"),
  ("17.", "⒘"),
  ("18.", "⒙"),
  ("19.", "⒚"),
  ("20.", "⒛"),
  ("(a)", "⒜"),
  ("(b)", "⒝"),
  ("(c)", "⒞"),
  ("(d)", "⒟"),
  ("(e)", "⒠"),
  ("(f)", "⒡"),
  ("(g)", "⒢"),
  ("(h)", "⒣"),
  ("(i)", "⒤"),
  ("(j)", "⒥"),
  ("(k)", "⒦"),
  ("(l)", "⒧"),
  ("(m)", "⒨"),
  ("(n)", "⒩"),
  ("(o)", "⒪"),
  ("(p)", "⒫"),
  ("(q)", "⒬"),
  ("(r)", "⒭"),
  ("(s)", "⒮"),
  ("(t)", "⒯"),
  ("(u)", "⒰"),
  ("(v)", "⒱"),
  ("(w)", "⒲"),
  ("(x)", "⒳"),
  ("(y)", "⒴"),
  ("(z)", "⒵"),
  ("q", "ⓠｑ𐞥𝐪𝑞𝒒𝓆𝓺𝔮𝕢𝖖𝗊𝗾𝘲𝙦𝚚"),
  ("::=", "⩴"),
  ("==", "⩵"),
  ("===", "⩶"),
  ("()", "㈀㈁㈂㈃㈄㈅㈆㈇㈈㈉㈊㈋㈌㈍㈎㈏㈐㈑㈒㈓㈔㈕㈖㈗㈘㈙㈚㈛㈜㈝㈞㈠㈡㈢㈣㈤㈥㈦㈧㈨"),
  ("()", "㈩㈪㈫㈬㈭㈮㈯㈰㈱㈲㈳㈴㈵㈶㈷㈸㈹㈺㈻㈼㈽㈾㈿㉀㉁㉂㉃"),
  ("PTE", "㉐"),
  ("21", "㉑㍭㏴"),
  ("22", "㉒㍮㏵"),
  ("24", "㉔㍰㏷"),
  ("26", "㉖㏹"),
  ("27", "㉗㏺"),
  ("28", "㉘㏻"),
  ("29", "㉙㏼"),
  ("30", "㉚㏽"),
  ("31", "㉛㏾"),
  ("32", "㉜"),
  ("33", "㉝"),
  ("36", "㊱"),
  ("37", "㊲"),
  ("39", "㊴"),
  ("40", "㊵"),
  ("41", "㊶"),
  ("42", "㊷"),
  ("43", "㊸"),
  ("44", "㊹"),
  ("46", "㊻"),
  ("47", "㊼"),
  ("48", "㊽"),
  ("49", "㊾"),
  ("50", "㊿"),
  ("Hg", "㋌"),
  ("erg", "㋍"),
  ("eV", "㋎"),
  ("LTD", "㋏"),
  ("hPa", "㍱"),
  ("da", "㍲"),
  ("AU", "㍳"),
  ("bar", "㍴"),
  ("oV", "㍵"),
  ("pc", "㍶"),
  ("dm", "㍷"),
  ("dm2", "㍸"),
  ("dm3", "㍹"),
  ("IU", "㍺"),
  ("pA", "㎀"),
  ("nA", "㎁"),
  ("mA", "㎃"),
  ("kA", "㎄"),
  ("KB", "㎅"),
  ("MB", "㎆"),
  ("GB", "㎇"),
  ("cal", "㎈"),
  ("kcal", "㎉"),
  ("pF", "㎊"),
  ("nF", "㎋"),
  ("mg", "㎎"),
  ("kg", "㎏"),
  ("Hz", "㎐"),
  ("kHz", "㎑"),
  ("MHz", "㎒"),
  ("GHz", "㎓"),
  ("THz", "㎔"),
  ("ml", "㎖"),
  ("dl", "㎗"),
  ("kl", "㎘"),
  ("fm", "㎙"),
  ("nm", "㎚"),
  ("mm", "㎜"),
  ("cm", "㎝"),
  ("km", "㎞"),
  ("mm2", "㎟"),
  ("cm2", "㎠"),
  ("m2", "㎡"),
  ("km2", "㎢"),
  ("mm3", "㎣"),
  ("cm3", "㎤"),
  ("m3", "㎥"),
  ("km3", "㎦"),
  ("ms", "㎧㎳"),
  ("ms2", "㎨"),
  ("Pa", "㎩"),
  ("kPa", "㎪"),
  ("MPa", "㎫"),
  ("GPa", "㎬"),
  ("rad", "㎭"),
  ("rads", "㎮"),
  ("rads2", "㎯"),
  ("ps", "㎰"),
  ("ns", "㎱"),
  ("pV", "㎴"),
  ("nV", "㎵"),
  ("mV", "㎷"),
  ("kV", "㎸"),
  ("MV", "㎹🅋"),
  ("pW", "㎺"),
  ("nW", "㎻"),
  ("mW", "㎽"),
  ("kW", "㎾"),
  ("MW", "㎿"),
  ("a.m.", "㏂"),
  ("Bq", "㏃"),
  ("cc", "㏄"),
  ("cd", "㏅"),
  ("Ckg", "㏆"),
  ("Co.", "㏇"),
  ("dB", "㏈"),
  ("Gy", "㏉"),
  ("ha", "㏊"),
  ("HP", "㏋"),
  ("in", "㏌"),
  ("KK", "㏍"),
  ("KM", "㏎"),
  ("kt", "㏏"),
  ("lm", "㏐"),
  ("ln", "㏑"),
  ("log", "㏒"),
  ("lx", "㏓"),
  ("mb", "㏔"),
  ("mil", "㏕"),
  ("mol", "㏖"),
  ("PH", "㏗"),
  ("p.m.", "㏘"),
  ("PPM", "㏙"),
  ("PR", "㏚"),
  ("sr", "㏛"),
  ("Sv", "㏜"),
  ("Wb", "㏝"),
  ("Vm", "㏞"),
  ("Am", "㏟"),
  ("gal", "㏿"),
  ("ff", "ﬀ"),
  ("fi", "ﬁ"),
  ("fl", "ﬂ"),
  ("ffi", "ﬃ"),
  ("ffl", "ﬄ"),
  ("st", "ﬅﬆ"),
  ("   ", "\uFDFA"),
  (",", "︐﹐，"),
  (":", "︓﹕："),
  ("!", "︕﹗！"),
  ("?", "︖﹖？"),
  ("_", "︳︴﹍﹎﹏＿"),
  ("\x7b", "︷﹛｛"),
  ("\x7d", "︸﹜｝"),
  ("[", "﹇［"),
  ("]", "﹈］"),
  ("#", "﹟＃"),
  ("&", "﹠＆"),
  ("*", "﹡＊"),
  ("-", "﹣－"),
  ("\\", "﹨＼"),
  ("$", "﹩＄"),
  ("%", "﹪％"),
  ("@", "﹫＠"),
  ("\"", "＂"),
  ("'", "＇"),
  ("/", "／"),
  ("^", "＾"),
  ("|", "｜"),
  ("~", "～"),
  ("0.", "🄀"),
  ("0,", "🄁"),
  ("1,", "🄂"),
  ("2,", "🄃"),
  ("3,", "🄄"),
  ("4,", "🄅"),
  ("5,", "🄆"),
  ("6,", "🄇"),
  ("7,", "🄈"),
  ("8,", "🄉"),
  ("9,", "🄊"),
  ("(A)", "🄐"),
  ("(B)", "🄑"),
  ("(C)", "🄒"),
  ("(D)", "🄓"),
  ("(E)", "🄔"),
  ("(F)", "🄕"),
  ("(G)", "🄖"),
  ("(H)", "🄗"),
  ("(I)", "🄘"),
  ("(J)", "🄙"),
  ("(K)", "🄚"),
  ("(L)", "🄛"),
  ("(M)", "🄜"),
  ("(N)", "🄝"),
  ("(O)", "🄞"),
  ("(P)", "🄟"),
  ("(Q)", "🄠"),
  ("(R)", "🄡"),
  ("(S)", "🄢"),
  ("(T)", "🄣"),
  ("(U)", "🄤"),
  ("(V)", "🄥"),
  ("(W)", "🄦"),
  ("(X)", "🄧"),
  ("(Y)", "🄨"),
  ("(Z)", "🄩"),
  ("CD", "🄭"),
  ("WZ", "🄮"),
  ("HV", "🅊"),
  ("SD", "🅌"),
  ("SS", "🅍"),
  ("PPV", "🅎"),
  ("WC", "🅏"),
  ("MC", "🅪"),
  ("MD", "🅫"),
  ("MR", "🅬"),
  ("DJ", "🆐")]

def foldChar (character : Char) : Text :=
  if character.toNat < 0x80 then [character]
  else
    match asciiParts.find? fun (_, members) => members.toList.contains character with
    | some (part, _) => part
    | none => []

def foldAscii (text : Text) : Text := text.flatMap foldChar

end Text

end StaticSite
