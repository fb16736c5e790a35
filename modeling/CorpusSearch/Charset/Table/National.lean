-- Character sets of single countries and makers, of one byte a character. The replacement
-- character stands at the places of bytes that stand for nothing.
import CorpusSearch.Charset.Step

namespace CorpusSearch.Charset.National

/-- Russian. -/
def koi8R : Text := aboveAscii (
  "─│┌┐└┘├┤┬┴┼▀▄█▌▐░▒▓⌠■∙√≈≤≥\u00a0⌡°²·÷═║╒ё╓╔╕╖╗╘╙╚╛╜╝╞╟╠╡Ё╢╣╤╥╦╧╨╩╪╫╬©" ++
  "юабцдефгхийклмнопярстужвьызшэщчъЮАБЦДЕФГХИЙКЛМНОПЯРСТУЖВЬЫЗШЭЩЧЪ")

/-- Tajik. -/
def koi8T : Text := aboveAscii (
  "қғ‚Ғ„…†‡�‰ҳ‹ҲҷҶ�Қ‘’“”•–—�™�›�����ӯӮё¤ӣ¦§���«¬\u00ad®�°±²Ё�Ӣ¶·�№�»���©" ++
  "юабцдефгхийклмнопярстужвьызшэщчъЮАБЦДЕФГХИЙКЛМНОПЯРСТУЖВЬЫЗШЭЩЧЪ")

/-- Ukrainian. -/
def koi8U : Text := aboveAscii (
  "─│┌┐└┘├┤┬┴┼▀▄█▌▐░▒▓⌠■∙√≈≤≥\u00a0⌡°²·÷═║╒ёє╔ії╗╘╙╚╛ґ╝╞╟╠╡ЁЄ╣ІЇ╦╧╨╩╪Ґ╬©" ++
  "юабцдефгхийклмнопярстужвьызшэщчъЮАБЦДЕФГХИЙКЛМНОПЯРСТУЖВЬЫЗШЭЩЧЪ")

/-- Kazakh. -/
def kz1048 : Text := aboveAscii (
  "ЂЃ‚ѓ„…†‡€‰Љ‹ЊҚҺЏђ‘’“”•–—�™љ›њқһџ\u00a0ҰұӘ¤Ө¦§Ё©Ғ«¬\u00ad®Ү°±Ііөµ¶·ё№ғ»әҢңү" ++
  "АБВГДЕЖЗИЙКЛМНОПРСТУФХЦЧШЩЪЫЬЭЮЯабвгдежзийклмнопрстуфхцчшщъыьэюя")

/-- Cyrillic of Central Asia. -/
def ptcp154 : Text := aboveAscii (
  "ҖҒӮғ„…ҶҮҲүҠӢҢҚҺҸҗ‘’“”•–—ҳҷҡӣңқһҹ\u00a0ЎўЈӨҘҰ§Ё©Ә«¬ӯ®Ҝ°ұІіҙө¶·ё№ә»јҪҫҝ" ++
  "АБВГДЕЖЗИЙКЛМНОПРСТУФХЦЧШЩЪЫЬЭЮЯабвгдежзийклмнопрстуфхцчшщъыьэюя")

/-- Thai. -/
def tis620 : Text := aboveAscii (
  "\u0080\u0081\u0082\u0083\u0084\u0085\u0086\u0087" ++
  "\u0088\u0089\u008a\u008b\u008c\u008d\u008e\u008f" ++
  "\u0090\u0091\u0092\u0093\u0094\u0095\u0096\u0097" ++
  "\u0098\u0099\u009a\u009b\u009c\u009d\u009e\u009f" ++
  "�กขฃคฅฆง" ++
  "จฉชซฌญฎฏ" ++
  "ฐฑฒณดตถท" ++
  "ธนบปผฝพฟ" ++
  "ภมยรฤลฦว" ++
  "ศษสหฬอฮฯ" ++
  "ะ\u0e31าำ\u0e34\u0e35\u0e36\u0e37" ++
  "\u0e38\u0e39\u0e3a����฿" ++
  "เแโใไๅๆ\u0e47" ++
  "\u0e48\u0e49\u0e4a\u0e4b\u0e4c\u0e4d\u0e4e๏" ++
  "๐๑๒๓๔๕๖๗" ++
  "๘๙๚๛����")

/-- Western Europe on printers. -/
def hpRoman8 : Text := aboveAscii (
  "\u0080\u0081\u0082\u0083\u0084\u0085\u0086\u0087" ++
  "\u0088\u0089\u008a\u008b\u008c\u008d\u008e\u008f" ++
  "\u0090\u0091\u0092\u0093\u0094\u0095\u0096\u0097" ++
  "\u0098\u0099\u009a\u009b\u009c\u009d\u009e\u009f" ++
  "\u00a0ÀÂÈÊËÎÏ" ++
  "´ˋˆ¨˜ÙÛ₤" ++
  "¯Ýý°ÇçÑñ" ++
  "¡¿¤£¥§ƒ¢" ++
  "âêôûáéóú" ++
  "àèòùäëöü" ++
  "ÅîØÆåíøæ" ++
  "ÄìÖÜÉïßÔ" ++
  "ÁÃãÐðÍÌÓ" ++
  "ÒÕõŠšÚŸÿ" ++
  "Þþ·µ¶¾—¼" ++
  "½ªº«■»±�")

/-- Western Europe on hand-held devices. -/
def palmOs : Text := aboveAscii (
  "€\u0081‚ƒ„…†‡ˆ‰Š‹Œ♦♣♥♠‘’“”•–—˜™š\u009bœ\u009d\u009eŸ" ++
  "\u00a0¡¢£¤¥¦§¨©ª«¬\u00ad®¯°±²³´µ¶·¸¹º»¼½¾¿" ++
  "ÀÁÂÃÄÅÆÇÈÉÊËÌÍÎÏÐÑÒÓÔÕÖ×ØÙÚÛÜÝÞß" ++
  "àáâãäåæçèéêëìíîïðñòóôõö÷øùúûüýþÿ")

end CorpusSearch.Charset.National
