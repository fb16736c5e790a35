-- Mainframe code pages, whose letters stand apart from the places of ASCII, of one byte a
-- character. The replacement character stands at the places of bytes that stand for nothing.
import CorpusSearch.Charset.Step

namespace CorpusSearch.Charset.Mainframe

/-- United States. -/
def page037 : Text := String.toList (
  "\x00\x01\x02\x03\u009c\x09\u0086\x7f\u0097\u008d\u008e\x0b\x0c\x0d\x0e\x0f" ++
  "\x10\x11\x12\x13\u009d\u0085\x08\u0087\x18\x19\u0092\u008f\x1c\x1d\x1e\x1f" ++
  "\u0080\u0081\u0082\u0083\u0084\x0a\x17\x1b\u0088\u0089\u008a\u008b\u008c\x05\x06\x07" ++
  "\u0090\u0091\x16\u0093\u0094\u0095\u0096\x04\u0098\u0099\u009a\u009b\x14\x15\u009e\x1a" ++
  " \u00a0âäàáãåçñ¢.<(+|" ++
  "&éêëèíîïìß!$*);¬" ++
  "-/ÂÄÀÁÃÅÇÑ¦,%_>?" ++
  "øÉÊËÈÍÎÏÌ`:#@'=\"" ++
  "Øabcdefghi«»ðýþ±" ++
  "°jklmnopqrªºæ¸Æ¤" ++
  "µ~stuvwxyz¡¿ÐÝÞ®" ++
  "^£¥·©§¶¼½¾[]¯¨´×" ++
  "\x7bABCDEFGHI\u00adôöòóõ" ++
  "\x7dJKLMNOPQR¹ûüùúÿ" ++
  "\\÷STUVWXYZ²ÔÖÒÓÕ" ++
  "0123456789³ÛÜÙÚ\u009f")

/-- German. -/
def page273 : Text := String.toList (
  "\x00\x01\x02\x03\u009c\x09\u0086\x7f\u0097\u008d\u008e\x0b\x0c\x0d\x0e\x0f" ++
  "\x10\x11\x12\x13\u009d\u0085\x08\u0087\x18\x19\u0092\u008f\x1c\x1d\x1e\x1f" ++
  "\u0080\u0081\u0082\u0083\u0084\x0a\x17\x1b\u0088\u0089\u008a\u008b\u008c\x05\x06\x07" ++
  "\u0090\u0091\x16\u0093\u0094\u0095\u0096\x04\u0098\u0099\u009a\u009b\x14\x15\u009e\x1a" ++
  " \u00a0â\x7bàáãåçñÄ.<(+!" ++
  "&éêëèíîïì~Ü$*);^" ++
  "-/Â[ÀÁÃÅÇÑö,%_>?" ++
  "øÉÊËÈÍÎÏÌ`:#§'=\"" ++
  "Øabcdefghi«»ðýþ±" ++
  "°jklmnopqrªºæ¸Æ¤" ++
  "µßstuvwxyz¡¿ÐÝÞ®" ++
  "¢£¥·©@¶¼½¾¬|‾¨´×" ++
  "äABCDEFGHI\u00adô¦òóõ" ++
  "üJKLMNOPQR¹û\x7dùúÿ" ++
  "Ö÷STUVWXYZ²Ô\\ÒÓÕ" ++
  "0123456789³Û]ÙÚ\u009f")

/-- Hebrew. -/
def page424 : Text := String.toList (
  "\x00\x01\x02\x03\u009c\x09\u0086\x7f\u0097\u008d\u008e\x0b\x0c\x0d\x0e\x0f" ++
  "\x10\x11\x12\x13\u009d\u0085\x08\u0087\x18\x19\u0092\u008f\x1c\x1d\x1e\x1f" ++
  "\u0080\u0081\u0082\u0083\u0084\x0a\x17\x1b\u0088\u0089\u008a\u008b\u008c\x05\x06\x07" ++
  "\u0090\u0091\x16\u0093\u0094\u0095\u0096\x04\u0098\u0099\u009a\u009b\x14\x15\u009e\x1a" ++
  " \u05d0\u05d1\u05d2\u05d3\u05d4\u05d5\u05d6\u05d7\u05d8¢.<(+|" ++
  "&\u05d9\u05da\u05db\u05dc\u05dd\u05de\u05df\u05e0\u05e1!$*);¬" ++
  "-/\u05e2\u05e3\u05e4\u05e5\u05e6\u05e7\u05e8\u05e9¦,%_>?" ++
  "�\u05ea��\u00a0���‗`:#@'=\"" ++
  "�abcdefghi«»���±" ++
  "°jklmnopqr���¸�¤" ++
  "µ~stuvwxyz�����®" ++
  "^£¥·©§¶¼½¾[]¯¨´×" ++
  "\x7bABCDEFGHI\u00ad�����" ++
  "\x7dJKLMNOPQR¹�����" ++
  "\\÷STUVWXYZ²�����" ++
  "0123456789³����\u009f")

/-- Western Europe. -/
def page500 : Text := String.toList (
  "\x00\x01\x02\x03\u009c\x09\u0086\x7f\u0097\u008d\u008e\x0b\x0c\x0d\x0e\x0f" ++
  "\x10\x11\x12\x13\u009d\u0085\x08\u0087\x18\x19\u0092\u008f\x1c\x1d\x1e\x1f" ++
  "\u0080\u0081\u0082\u0083\u0084\x0a\x17\x1b\u0088\u0089\u008a\u008b\u008c\x05\x06\x07" ++
  "\u0090\u0091\x16\u0093\u0094\u0095\u0096\x04\u0098\u0099\u009a\u009b\x14\x15\u009e\x1a" ++
  " \u00a0âäàáãåçñ[.<(+!" ++
  "&éêëèíîïìß]$*);^" ++
  "-/ÂÄÀÁÃÅÇÑ¦,%_>?" ++
  "øÉÊËÈÍÎÏÌ`:#@'=\"" ++
  "Øabcdefghi«»ðýþ±" ++
  "°jklmnopqrªºæ¸Æ¤" ++
  "µ~stuvwxyz¡¿ÐÝÞ®" ++
  "¢£¥·©§¶¼½¾¬|¯¨´×" ++
  "\x7bABCDEFGHI\u00adôöòóõ" ++
  "\x7dJKLMNOPQR¹ûüùúÿ" ++
  "\\÷STUVWXYZ²ÔÖÒÓÕ" ++
  "0123456789³ÛÜÙÚ\u009f")

/-- Greek. -/
def page875 : Text := String.toList (
  "\x00\x01\x02\x03\u009c\x09\u0086\x7f\u0097\u008d\u008e\x0b\x0c\x0d\x0e\x0f" ++
  "\x10\x11\x12\x13\u009d\u0085\x08\u0087\x18\x19\u0092\u008f\x1c\x1d\x1e\x1f" ++
  "\u0080\u0081\u0082\u0083\u0084\x0a\x17\x1b\u0088\u0089\u008a\u008b\u008c\x05\x06\x07" ++
  "\u0090\u0091\x16\u0093\u0094\u0095\u0096\x04\u0098\u0099\u009a\u009b\x14\x15\u009e\x1a" ++
  " ΑΒΓΔΕΖΗΘΙ[.<(+!" ++
  "&ΚΛΜΝΞΟΠΡΣ]$*);^" ++
  "-/ΤΥΦΧΨΩΪΫ|,%_>?" ++
  "¨ΆΈΉ\u00a0ΊΌΎΏ`:#@'=\"" ++
  "΅abcdefghiαβγδεζ" ++
  "°jklmnopqrηθικλμ" ++
  "´~stuvwxyzνξοπρσ" ++
  "£άέήϊίόύϋώςτυφχψ" ++
  "\x7bABCDEFGHI\u00adωΐΰ‘―" ++
  "\x7dJKLMNOPQR±½\x1a·’¦" ++
  "\\\x1aSTUVWXYZ²§\x1a\x1a«¬" ++
  "0123456789³©\x1a\x1a»\u009f")

/-- Turkish. -/
def page1026 : Text := String.toList (
  "\x00\x01\x02\x03\u009c\x09\u0086\x7f\u0097\u008d\u008e\x0b\x0c\x0d\x0e\x0f" ++
  "\x10\x11\x12\x13\u009d\u0085\x08\u0087\x18\x19\u0092\u008f\x1c\x1d\x1e\x1f" ++
  "\u0080\u0081\u0082\u0083\u0084\x0a\x17\x1b\u0088\u0089\u008a\u008b\u008c\x05\x06\x07" ++
  "\u0090\u0091\x16\u0093\u0094\u0095\u0096\x04\u0098\u0099\u009a\u009b\x14\x15\u009e\x1a" ++
  " \u00a0âäàáãå\x7bñÇ.<(+!" ++
  "&éêëèíîïìßĞİ*);^" ++
  "-/ÂÄÀÁÃÅ[Ñş,%_>?" ++
  "øÉÊËÈÍÎÏÌı:ÖŞ'=Ü" ++
  "Øabcdefghi«»\x7d`¦±" ++
  "°jklmnopqrªºæ¸Æ¤" ++
  "µöstuvwxyz¡¿]$@®" ++
  "¢£¥·©§¶¼½¾¬|¯¨´×" ++
  "çABCDEFGHI\u00adô~òóõ" ++
  "ğJKLMNOPQR¹û\\ùúÿ" ++
  "ü÷STUVWXYZ²Ô#ÒÓÕ" ++
  "0123456789³Û\"ÙÚ\u009f")

/-- United States with the euro. -/
def page1140 : Text := String.toList (
  "\x00\x01\x02\x03\u009c\x09\u0086\x7f\u0097\u008d\u008e\x0b\x0c\x0d\x0e\x0f" ++
  "\x10\x11\x12\x13\u009d\u0085\x08\u0087\x18\x19\u0092\u008f\x1c\x1d\x1e\x1f" ++
  "\u0080\u0081\u0082\u0083\u0084\x0a\x17\x1b\u0088\u0089\u008a\u008b\u008c\x05\x06\x07" ++
  "\u0090\u0091\x16\u0093\u0094\u0095\u0096\x04\u0098\u0099\u009a\u009b\x14\x15\u009e\x1a" ++
  " \u00a0âäàáãåçñ¢.<(+|" ++
  "&éêëèíîïìß!$*);¬" ++
  "-/ÂÄÀÁÃÅÇÑ¦,%_>?" ++
  "øÉÊËÈÍÎÏÌ`:#@'=\"" ++
  "Øabcdefghi«»ðýþ±" ++
  "°jklmnopqrªºæ¸Æ€" ++
  "µ~stuvwxyz¡¿ÐÝÞ®" ++
  "^£¥·©§¶¼½¾[]¯¨´×" ++
  "\x7bABCDEFGHI\u00adôöòóõ" ++
  "\x7dJKLMNOPQR¹ûüùúÿ" ++
  "\\÷STUVWXYZ²ÔÖÒÓÕ" ++
  "0123456789³ÛÜÙÚ\u009f")

end CorpusSearch.Charset.Mainframe
