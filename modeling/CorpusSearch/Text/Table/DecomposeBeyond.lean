-- Full compatibility decompositions (Unicode 14.0) of musical signs, mathematical letters and
-- enclosed signs, U+10000 to U+2F7FF. A row `(first, last, parts)` sends `first` to `parts`; a
-- later code point of the row counts its distance from `first` on to the first part.
namespace CorpusSearch.Text.Table

/-- Decompositions from U+10781 to U+1EE1D. -/
def decomposeBeyondA : List (Nat × Nat × List Nat) :=
  [(0x10781, 0x10782, [0x02D0]), (0x10783, 0x10783, [0x00E6]), (0x10784, 0x10784, [0x0299]),
   (0x10785, 0x10785, [0x0253]), (0x10787, 0x10787, [0x02A3]), (0x10788, 0x10788, [0xAB66]),
   (0x10789, 0x10789, [0x02A5]), (0x1078A, 0x1078A, [0x02A4]), (0x1078B, 0x1078C, [0x0256]),
   (0x1078D, 0x1078D, [0x1D91]), (0x1078E, 0x1078E, [0x0258]), (0x1078F, 0x1078F, [0x025E]),
   (0x10790, 0x10790, [0x02A9]), (0x10791, 0x10791, [0x0264]), (0x10792, 0x10792, [0x0262]),
   (0x10793, 0x10793, [0x0260]), (0x10794, 0x10794, [0x029B]), (0x10795, 0x10795, [0x0127]),
   (0x10796, 0x10796, [0x029C]), (0x10797, 0x10797, [0x0267]), (0x10798, 0x10798, [0x0284]),
   (0x10799, 0x1079A, [0x02AA]), (0x1079B, 0x1079B, [0x026C]), (0x1079C, 0x1079C, [0x1DF04]),
   (0x1079D, 0x1079D, [0xA78E]), (0x1079E, 0x1079E, [0x026E]), (0x1079F, 0x1079F, [0x1DF05]),
   (0x107A0, 0x107A0, [0x028E]), (0x107A1, 0x107A1, [0x1DF06]), (0x107A2, 0x107A2, [0x00F8]),
   (0x107A3, 0x107A4, [0x0276]), (0x107A5, 0x107A5, [0x0071]), (0x107A6, 0x107A6, [0x027A]),
   (0x107A7, 0x107A7, [0x1DF08]), (0x107A8, 0x107A9, [0x027D]), (0x107AA, 0x107AA, [0x0280]),
   (0x107AB, 0x107AB, [0x02A8]), (0x107AC, 0x107AC, [0x02A6]), (0x107AD, 0x107AD, [0xAB67]),
   (0x107AE, 0x107AE, [0x02A7]), (0x107AF, 0x107AF, [0x0288]), (0x107B0, 0x107B0, [0x2C71]),
   (0x107B2, 0x107B2, [0x028F]), (0x107B3, 0x107B4, [0x02A1]), (0x107B5, 0x107B5, [0x0298]),
   (0x107B6, 0x107B8, [0x01C0]), (0x107B9, 0x107B9, [0x1DF0A]), (0x107BA, 0x107BA, [0x1DF1E]),
   (0x1109A, 0x1109A, [0x11099, 0x110BA]), (0x1109C, 0x1109C, [0x1109B, 0x110BA]),
   (0x110AB, 0x110AB, [0x110A5, 0x110BA]), (0x1112E, 0x1112F, [0x11131, 0x11127]),
   (0x1134B, 0x1134B, [0x11347, 0x1133E]), (0x1134C, 0x1134C, [0x11347, 0x11357]),
   (0x114BB, 0x114BB, [0x114B9, 0x114BA]), (0x114BC, 0x114BC, [0x114B9, 0x114B0]),
   (0x114BE, 0x114BE, [0x114B9, 0x114BD]), (0x115BA, 0x115BB, [0x115B8, 0x115AF]),
   (0x11938, 0x11938, [0x11935, 0x11930]), (0x1D15E, 0x1D15F, [0x1D157, 0x1D165]),
   (0x1D160, 0x1D160, [0x1D158, 0x1D165, 0x1D16E]),
   (0x1D161, 0x1D161, [0x1D158, 0x1D165, 0x1D16F]),
   (0x1D162, 0x1D162, [0x1D158, 0x1D165, 0x1D170]),
   (0x1D163, 0x1D163, [0x1D158, 0x1D165, 0x1D171]),
   (0x1D164, 0x1D164, [0x1D158, 0x1D165, 0x1D172]), (0x1D1BB, 0x1D1BC, [0x1D1B9, 0x1D165]),
   (0x1D1BD, 0x1D1BE, [0x1D1B9, 0x1D165, 0x1D16E]),
   (0x1D1BF, 0x1D1C0, [0x1D1B9, 0x1D165, 0x1D16F]), (0x1D400, 0x1D419, [0x0041]),
   (0x1D41A, 0x1D433, [0x0061]), (0x1D434, 0x1D44D, [0x0041]), (0x1D44E, 0x1D454, [0x0061]),
   (0x1D456, 0x1D467, [0x0069]), (0x1D468, 0x1D481, [0x0041]), (0x1D482, 0x1D49B, [0x0061]),
   (0x1D49C, 0x1D49C, [0x0041]), (0x1D49E, 0x1D49F, [0x0043]), (0x1D4A2, 0x1D4A2, [0x0047]),
   (0x1D4A5, 0x1D4A6, [0x004A]), (0x1D4A9, 0x1D4AC, [0x004E]), (0x1D4AE, 0x1D4B5, [0x0053]),
   (0x1D4B6, 0x1D4B9, [0x0061]), (0x1D4BB, 0x1D4BB, [0x0066]), (0x1D4BD, 0x1D4C3, [0x0068]),
   (0x1D4C5, 0x1D4CF, [0x0070]), (0x1D4D0, 0x1D4E9, [0x0041]), (0x1D4EA, 0x1D503, [0x0061]),
   (0x1D504, 0x1D505, [0x0041]), (0x1D507, 0x1D50A, [0x0044]), (0x1D50D, 0x1D514, [0x004A]),
   (0x1D516, 0x1D51C, [0x0053]), (0x1D51E, 0x1D537, [0x0061]), (0x1D538, 0x1D539, [0x0041]),
   (0x1D53B, 0x1D53E, [0x0044]), (0x1D540, 0x1D544, [0x0049]), (0x1D546, 0x1D546, [0x004F]),
   (0x1D54A, 0x1D550, [0x0053]), (0x1D552, 0x1D56B, [0x0061]), (0x1D56C, 0x1D585, [0x0041]),
   (0x1D586, 0x1D59F, [0x0061]), (0x1D5A0, 0x1D5B9, [0x0041]), (0x1D5BA, 0x1D5D3, [0x0061]),
   (0x1D5D4, 0x1D5ED, [0x0041]), (0x1D5EE, 0x1D607, [0x0061]), (0x1D608, 0x1D621, [0x0041]),
   (0x1D622, 0x1D63B, [0x0061]), (0x1D63C, 0x1D655, [0x0041]), (0x1D656, 0x1D66F, [0x0061]),
   (0x1D670, 0x1D689, [0x0041]), (0x1D68A, 0x1D6A3, [0x0061]), (0x1D6A4, 0x1D6A4, [0x0131]),
   (0x1D6A5, 0x1D6A5, [0x0237]), (0x1D6A8, 0x1D6B8, [0x0391]), (0x1D6B9, 0x1D6B9, [0x0398]),
   (0x1D6BA, 0x1D6C0, [0x03A3]), (0x1D6C1, 0x1D6C1, [0x2207]), (0x1D6C2, 0x1D6DA, [0x03B1]),
   (0x1D6DB, 0x1D6DB, [0x2202]), (0x1D6DC, 0x1D6DC, [0x03B5]), (0x1D6DD, 0x1D6DD, [0x03B8]),
   (0x1D6DE, 0x1D6DE, [0x03BA]), (0x1D6DF, 0x1D6DF, [0x03C6]), (0x1D6E0, 0x1D6E0, [0x03C1]),
   (0x1D6E1, 0x1D6E1, [0x03C0]), (0x1D6E2, 0x1D6F2, [0x0391]), (0x1D6F3, 0x1D6F3, [0x0398]),
   (0x1D6F4, 0x1D6FA, [0x03A3]), (0x1D6FB, 0x1D6FB, [0x2207]), (0x1D6FC, 0x1D714, [0x03B1]),
   (0x1D715, 0x1D715, [0x2202]), (0x1D716, 0x1D716, [0x03B5]), (0x1D717, 0x1D717, [0x03B8]),
   (0x1D718, 0x1D718, [0x03BA]), (0x1D719, 0x1D719, [0x03C6]), (0x1D71A, 0x1D71A, [0x03C1]),
   (0x1D71B, 0x1D71B, [0x03C0]), (0x1D71C, 0x1D72C, [0x0391]), (0x1D72D, 0x1D72D, [0x0398]),
   (0x1D72E, 0x1D734, [0x03A3]), (0x1D735, 0x1D735, [0x2207]), (0x1D736, 0x1D74E, [0x03B1]),
   (0x1D74F, 0x1D74F, [0x2202]), (0x1D750, 0x1D750, [0x03B5]), (0x1D751, 0x1D751, [0x03B8]),
   (0x1D752, 0x1D752, [0x03BA]), (0x1D753, 0x1D753, [0x03C6]), (0x1D754, 0x1D754, [0x03C1]),
   (0x1D755, 0x1D755, [0x03C0]), (0x1D756, 0x1D766, [0x0391]), (0x1D767, 0x1D767, [0x0398]),
   (0x1D768, 0x1D76E, [0x03A3]), (0x1D76F, 0x1D76F, [0x2207]), (0x1D770, 0x1D788, [0x03B1]),
   (0x1D789, 0x1D789, [0x2202]), (0x1D78A, 0x1D78A, [0x03B5]), (0x1D78B, 0x1D78B, [0x03B8]),
   (0x1D78C, 0x1D78C, [0x03BA]), (0x1D78D, 0x1D78D, [0x03C6]), (0x1D78E, 0x1D78E, [0x03C1]),
   (0x1D78F, 0x1D78F, [0x03C0]), (0x1D790, 0x1D7A0, [0x0391]), (0x1D7A1, 0x1D7A1, [0x0398]),
   (0x1D7A2, 0x1D7A8, [0x03A3]), (0x1D7A9, 0x1D7A9, [0x2207]), (0x1D7AA, 0x1D7C2, [0x03B1]),
   (0x1D7C3, 0x1D7C3, [0x2202]), (0x1D7C4, 0x1D7C4, [0x03B5]), (0x1D7C5, 0x1D7C5, [0x03B8]),
   (0x1D7C6, 0x1D7C6, [0x03BA]), (0x1D7C7, 0x1D7C7, [0x03C6]), (0x1D7C8, 0x1D7C8, [0x03C1]),
   (0x1D7C9, 0x1D7C9, [0x03C0]), (0x1D7CA, 0x1D7CB, [0x03DC]), (0x1D7CE, 0x1D7D7, [0x0030]),
   (0x1D7D8, 0x1D7E1, [0x0030]), (0x1D7E2, 0x1D7EB, [0x0030]), (0x1D7EC, 0x1D7F5, [0x0030]),
   (0x1D7F6, 0x1D7FF, [0x0030]), (0x1EE00, 0x1EE01, [0x0627]), (0x1EE02, 0x1EE02, [0x062C]),
   (0x1EE03, 0x1EE03, [0x062F]), (0x1EE05, 0x1EE05, [0x0648]), (0x1EE06, 0x1EE06, [0x0632]),
   (0x1EE07, 0x1EE07, [0x062D]), (0x1EE08, 0x1EE08, [0x0637]), (0x1EE09, 0x1EE09, [0x064A]),
   (0x1EE0A, 0x1EE0D, [0x0643]), (0x1EE0E, 0x1EE0E, [0x0633]), (0x1EE0F, 0x1EE0F, [0x0639]),
   (0x1EE10, 0x1EE10, [0x0641]), (0x1EE11, 0x1EE11, [0x0635]), (0x1EE12, 0x1EE12, [0x0642]),
   (0x1EE13, 0x1EE13, [0x0631]), (0x1EE14, 0x1EE14, [0x0634]), (0x1EE15, 0x1EE16, [0x062A]),
   (0x1EE17, 0x1EE17, [0x062E]), (0x1EE18, 0x1EE18, [0x0630]), (0x1EE19, 0x1EE19, [0x0636]),
   (0x1EE1A, 0x1EE1A, [0x0638]), (0x1EE1B, 0x1EE1B, [0x063A]), (0x1EE1C, 0x1EE1C, [0x066E]),
   (0x1EE1D, 0x1EE1D, [0x06BA])]

/-- Decompositions from U+1EE1E to U+1FBF9. -/
def decomposeBeyondB : List (Nat × Nat × List Nat) :=
  [(0x1EE1E, 0x1EE1E, [0x06A1]), (0x1EE1F, 0x1EE1F, [0x066F]), (0x1EE21, 0x1EE21, [0x0628]),
   (0x1EE22, 0x1EE22, [0x062C]), (0x1EE24, 0x1EE24, [0x0647]), (0x1EE27, 0x1EE27, [0x062D]),
   (0x1EE29, 0x1EE29, [0x064A]), (0x1EE2A, 0x1EE2D, [0x0643]), (0x1EE2E, 0x1EE2E, [0x0633]),
   (0x1EE2F, 0x1EE2F, [0x0639]), (0x1EE30, 0x1EE30, [0x0641]), (0x1EE31, 0x1EE31, [0x0635]),
   (0x1EE32, 0x1EE32, [0x0642]), (0x1EE34, 0x1EE34, [0x0634]), (0x1EE35, 0x1EE36, [0x062A]),
   (0x1EE37, 0x1EE37, [0x062E]), (0x1EE39, 0x1EE39, [0x0636]), (0x1EE3B, 0x1EE3B, [0x063A]),
   (0x1EE42, 0x1EE42, [0x062C]), (0x1EE47, 0x1EE47, [0x062D]), (0x1EE49, 0x1EE49, [0x064A]),
   (0x1EE4B, 0x1EE4B, [0x0644]), (0x1EE4D, 0x1EE4D, [0x0646]), (0x1EE4E, 0x1EE4E, [0x0633]),
   (0x1EE4F, 0x1EE4F, [0x0639]), (0x1EE51, 0x1EE51, [0x0635]), (0x1EE52, 0x1EE52, [0x0642]),
   (0x1EE54, 0x1EE54, [0x0634]), (0x1EE57, 0x1EE57, [0x062E]), (0x1EE59, 0x1EE59, [0x0636]),
   (0x1EE5B, 0x1EE5B, [0x063A]), (0x1EE5D, 0x1EE5D, [0x06BA]), (0x1EE5F, 0x1EE5F, [0x066F]),
   (0x1EE61, 0x1EE61, [0x0628]), (0x1EE62, 0x1EE62, [0x062C]), (0x1EE64, 0x1EE64, [0x0647]),
   (0x1EE67, 0x1EE67, [0x062D]), (0x1EE68, 0x1EE68, [0x0637]), (0x1EE69, 0x1EE69, [0x064A]),
   (0x1EE6A, 0x1EE6A, [0x0643]), (0x1EE6C, 0x1EE6D, [0x0645]), (0x1EE6E, 0x1EE6E, [0x0633]),
   (0x1EE6F, 0x1EE6F, [0x0639]), (0x1EE70, 0x1EE70, [0x0641]), (0x1EE71, 0x1EE71, [0x0635]),
   (0x1EE72, 0x1EE72, [0x0642]), (0x1EE74, 0x1EE74, [0x0634]), (0x1EE75, 0x1EE76, [0x062A]),
   (0x1EE77, 0x1EE77, [0x062E]), (0x1EE79, 0x1EE79, [0x0636]), (0x1EE7A, 0x1EE7A, [0x0638]),
   (0x1EE7B, 0x1EE7B, [0x063A]), (0x1EE7C, 0x1EE7C, [0x066E]), (0x1EE7E, 0x1EE7E, [0x06A1]),
   (0x1EE80, 0x1EE81, [0x0627]), (0x1EE82, 0x1EE82, [0x062C]), (0x1EE83, 0x1EE83, [0x062F]),
   (0x1EE84, 0x1EE85, [0x0647]), (0x1EE86, 0x1EE86, [0x0632]), (0x1EE87, 0x1EE87, [0x062D]),
   (0x1EE88, 0x1EE88, [0x0637]), (0x1EE89, 0x1EE89, [0x064A]), (0x1EE8B, 0x1EE8D, [0x0644]),
   (0x1EE8E, 0x1EE8E, [0x0633]), (0x1EE8F, 0x1EE8F, [0x0639]), (0x1EE90, 0x1EE90, [0x0641]),
   (0x1EE91, 0x1EE91, [0x0635]), (0x1EE92, 0x1EE92, [0x0642]), (0x1EE93, 0x1EE93, [0x0631]),
   (0x1EE94, 0x1EE94, [0x0634]), (0x1EE95, 0x1EE96, [0x062A]), (0x1EE97, 0x1EE97, [0x062E]),
   (0x1EE98, 0x1EE98, [0x0630]), (0x1EE99, 0x1EE99, [0x0636]), (0x1EE9A, 0x1EE9A, [0x0638]),
   (0x1EE9B, 0x1EE9B, [0x063A]), (0x1EEA1, 0x1EEA1, [0x0628]), (0x1EEA2, 0x1EEA2, [0x062C]),
   (0x1EEA3, 0x1EEA3, [0x062F]), (0x1EEA5, 0x1EEA5, [0x0648]), (0x1EEA6, 0x1EEA6, [0x0632]),
   (0x1EEA7, 0x1EEA7, [0x062D]), (0x1EEA8, 0x1EEA8, [0x0637]), (0x1EEA9, 0x1EEA9, [0x064A]),
   (0x1EEAB, 0x1EEAD, [0x0644]), (0x1EEAE, 0x1EEAE, [0x0633]), (0x1EEAF, 0x1EEAF, [0x0639]),
   (0x1EEB0, 0x1EEB0, [0x0641]), (0x1EEB1, 0x1EEB1, [0x0635]), (0x1EEB2, 0x1EEB2, [0x0642]),
   (0x1EEB3, 0x1EEB3, [0x0631]), (0x1EEB4, 0x1EEB4, [0x0634]), (0x1EEB5, 0x1EEB6, [0x062A]),
   (0x1EEB7, 0x1EEB7, [0x062E]), (0x1EEB8, 0x1EEB8, [0x0630]), (0x1EEB9, 0x1EEB9, [0x0636]),
   (0x1EEBA, 0x1EEBA, [0x0638]), (0x1EEBB, 0x1EEBB, [0x063A]),
   (0x1F100, 0x1F100, [0x0030, 0x002E]), (0x1F101, 0x1F10A, [0x0030, 0x002C]),
   (0x1F110, 0x1F110, [0x0028, 0x0041, 0x0029]), (0x1F111, 0x1F111, [0x0028, 0x0042, 0x0029]),
   (0x1F112, 0x1F112, [0x0028, 0x0043, 0x0029]), (0x1F113, 0x1F113, [0x0028, 0x0044, 0x0029]),
   (0x1F114, 0x1F114, [0x0028, 0x0045, 0x0029]), (0x1F115, 0x1F115, [0x0028, 0x0046, 0x0029]),
   (0x1F116, 0x1F116, [0x0028, 0x0047, 0x0029]), (0x1F117, 0x1F117, [0x0028, 0x0048, 0x0029]),
   (0x1F118, 0x1F118, [0x0028, 0x0049, 0x0029]), (0x1F119, 0x1F119, [0x0028, 0x004A, 0x0029]),
   (0x1F11A, 0x1F11A, [0x0028, 0x004B, 0x0029]), (0x1F11B, 0x1F11B, [0x0028, 0x004C, 0x0029]),
   (0x1F11C, 0x1F11C, [0x0028, 0x004D, 0x0029]), (0x1F11D, 0x1F11D, [0x0028, 0x004E, 0x0029]),
   (0x1F11E, 0x1F11E, [0x0028, 0x004F, 0x0029]), (0x1F11F, 0x1F11F, [0x0028, 0x0050, 0x0029]),
   (0x1F120, 0x1F120, [0x0028, 0x0051, 0x0029]), (0x1F121, 0x1F121, [0x0028, 0x0052, 0x0029]),
   (0x1F122, 0x1F122, [0x0028, 0x0053, 0x0029]), (0x1F123, 0x1F123, [0x0028, 0x0054, 0x0029]),
   (0x1F124, 0x1F124, [0x0028, 0x0055, 0x0029]), (0x1F125, 0x1F125, [0x0028, 0x0056, 0x0029]),
   (0x1F126, 0x1F126, [0x0028, 0x0057, 0x0029]), (0x1F127, 0x1F127, [0x0028, 0x0058, 0x0029]),
   (0x1F128, 0x1F128, [0x0028, 0x0059, 0x0029]), (0x1F129, 0x1F129, [0x0028, 0x005A, 0x0029]),
   (0x1F12A, 0x1F12A, [0x3014, 0x0053, 0x3015]), (0x1F12B, 0x1F12B, [0x0043]),
   (0x1F12C, 0x1F12C, [0x0052]), (0x1F12D, 0x1F12D, [0x0043, 0x0044]),
   (0x1F12E, 0x1F12E, [0x0057, 0x005A]), (0x1F130, 0x1F149, [0x0041]),
   (0x1F14A, 0x1F14A, [0x0048, 0x0056]), (0x1F14B, 0x1F14B, [0x004D, 0x0056]),
   (0x1F14C, 0x1F14C, [0x0053, 0x0044]), (0x1F14D, 0x1F14D, [0x0053, 0x0053]),
   (0x1F14E, 0x1F14E, [0x0050, 0x0050, 0x0056]), (0x1F14F, 0x1F14F, [0x0057, 0x0043]),
   (0x1F16A, 0x1F16A, [0x004D, 0x0043]), (0x1F16B, 0x1F16B, [0x004D, 0x0044]),
   (0x1F16C, 0x1F16C, [0x004D, 0x0052]), (0x1F190, 0x1F190, [0x0044, 0x004A]),
   (0x1F200, 0x1F200, [0x307B, 0x304B]), (0x1F201, 0x1F201, [0x30B3, 0x30B3]),
   (0x1F202, 0x1F202, [0x30B5]), (0x1F210, 0x1F210, [0x624B]), (0x1F211, 0x1F211, [0x5B57]),
   (0x1F212, 0x1F212, [0x53CC]), (0x1F213, 0x1F213, [0x30C6, 0x3099]),
   (0x1F214, 0x1F214, [0x4E8C]), (0x1F215, 0x1F215, [0x591A]), (0x1F216, 0x1F216, [0x89E3]),
   (0x1F217, 0x1F217, [0x5929]), (0x1F218, 0x1F218, [0x4EA4]), (0x1F219, 0x1F219, [0x6620]),
   (0x1F21A, 0x1F21A, [0x7121]), (0x1F21B, 0x1F21B, [0x6599]), (0x1F21C, 0x1F21C, [0x524D]),
   (0x1F21D, 0x1F21D, [0x5F8C]), (0x1F21E, 0x1F21E, [0x518D]), (0x1F21F, 0x1F21F, [0x65B0]),
   (0x1F220, 0x1F220, [0x521D]), (0x1F221, 0x1F221, [0x7D42]), (0x1F222, 0x1F222, [0x751F]),
   (0x1F223, 0x1F223, [0x8CA9]), (0x1F224, 0x1F224, [0x58F0]), (0x1F225, 0x1F225, [0x5439]),
   (0x1F226, 0x1F226, [0x6F14]), (0x1F227, 0x1F227, [0x6295]), (0x1F228, 0x1F228, [0x6355]),
   (0x1F229, 0x1F229, [0x4E00]), (0x1F22A, 0x1F22A, [0x4E09]), (0x1F22B, 0x1F22B, [0x904A]),
   (0x1F22C, 0x1F22C, [0x5DE6]), (0x1F22D, 0x1F22D, [0x4E2D]), (0x1F22E, 0x1F22E, [0x53F3]),
   (0x1F22F, 0x1F22F, [0x6307]), (0x1F230, 0x1F230, [0x8D70]), (0x1F231, 0x1F231, [0x6253]),
   (0x1F232, 0x1F232, [0x7981]), (0x1F233, 0x1F233, [0x7A7A]), (0x1F234, 0x1F234, [0x5408]),
   (0x1F235, 0x1F235, [0x6E80]), (0x1F236, 0x1F236, [0x6709]), (0x1F237, 0x1F237, [0x6708]),
   (0x1F238, 0x1F238, [0x7533]), (0x1F239, 0x1F239, [0x5272]), (0x1F23A, 0x1F23A, [0x55B6]),
   (0x1F23B, 0x1F23B, [0x914D]), (0x1F240, 0x1F240, [0x3014, 0x672C, 0x3015]),
   (0x1F241, 0x1F241, [0x3014, 0x4E09, 0x3015]), (0x1F242, 0x1F242, [0x3014, 0x4E8C, 0x3015]),
   (0x1F243, 0x1F243, [0x3014, 0x5B89, 0x3015]), (0x1F244, 0x1F244, [0x3014, 0x70B9, 0x3015]),
   (0x1F245, 0x1F245, [0x3014, 0x6253, 0x3015]), (0x1F246, 0x1F246, [0x3014, 0x76D7, 0x3015]),
   (0x1F247, 0x1F247, [0x3014, 0x52DD, 0x3015]), (0x1F248, 0x1F248, [0x3014, 0x6557, 0x3015]),
   (0x1F250, 0x1F250, [0x5F97]), (0x1F251, 0x1F251, [0x53EF]), (0x1FBF0, 0x1FBF9, [0x0030])]

/-- The rows of this module in ascending order. -/
def decomposeBeyond : List (Nat × Nat × List Nat) :=
  decomposeBeyondA ++ decomposeBeyondB

end CorpusSearch.Text.Table
