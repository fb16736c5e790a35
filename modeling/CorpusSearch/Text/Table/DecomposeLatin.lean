-- Full compatibility decompositions (Unicode 14.0) of letters and signs below U+1100.
-- A row `(first, last, parts)` sends `first` to `parts`; a later code point of the row counts its
-- distance from `first` on to the first part.
namespace CorpusSearch.Text.Table

/-- Decompositions from U+00A0 to U+01FA. -/
def decomposeLatinA : List (Nat × Nat × List Nat) :=
  [(0x00A0, 0x00A0, [0x0020]), (0x00A8, 0x00A8, [0x0020, 0x0308]), (0x00AA, 0x00AA, [0x0061]),
   (0x00AF, 0x00AF, [0x0020, 0x0304]), (0x00B2, 0x00B3, [0x0032]),
   (0x00B4, 0x00B4, [0x0020, 0x0301]), (0x00B5, 0x00B5, [0x03BC]),
   (0x00B8, 0x00B8, [0x0020, 0x0327]), (0x00B9, 0x00B9, [0x0031]), (0x00BA, 0x00BA, [0x006F]),
   (0x00BC, 0x00BC, [0x0031, 0x2044, 0x0034]), (0x00BD, 0x00BD, [0x0031, 0x2044, 0x0032]),
   (0x00BE, 0x00BE, [0x0033, 0x2044, 0x0034]), (0x00C0, 0x00C0, [0x0041, 0x0300]),
   (0x00C1, 0x00C1, [0x0041, 0x0301]), (0x00C2, 0x00C2, [0x0041, 0x0302]),
   (0x00C3, 0x00C3, [0x0041, 0x0303]), (0x00C4, 0x00C4, [0x0041, 0x0308]),
   (0x00C5, 0x00C5, [0x0041, 0x030A]), (0x00C7, 0x00C7, [0x0043, 0x0327]),
   (0x00C8, 0x00C8, [0x0045, 0x0300]), (0x00C9, 0x00C9, [0x0045, 0x0301]),
   (0x00CA, 0x00CA, [0x0045, 0x0302]), (0x00CB, 0x00CB, [0x0045, 0x0308]),
   (0x00CC, 0x00CC, [0x0049, 0x0300]), (0x00CD, 0x00CD, [0x0049, 0x0301]),
   (0x00CE, 0x00CE, [0x0049, 0x0302]), (0x00CF, 0x00CF, [0x0049, 0x0308]),
   (0x00D1, 0x00D1, [0x004E, 0x0303]), (0x00D2, 0x00D2, [0x004F, 0x0300]),
   (0x00D3, 0x00D3, [0x004F, 0x0301]), (0x00D4, 0x00D4, [0x004F, 0x0302]),
   (0x00D5, 0x00D5, [0x004F, 0x0303]), (0x00D6, 0x00D6, [0x004F, 0x0308]),
   (0x00D9, 0x00D9, [0x0055, 0x0300]), (0x00DA, 0x00DA, [0x0055, 0x0301]),
   (0x00DB, 0x00DB, [0x0055, 0x0302]), (0x00DC, 0x00DC, [0x0055, 0x0308]),
   (0x00DD, 0x00DD, [0x0059, 0x0301]), (0x00E0, 0x00E0, [0x0061, 0x0300]),
   (0x00E1, 0x00E1, [0x0061, 0x0301]), (0x00E2, 0x00E2, [0x0061, 0x0302]),
   (0x00E3, 0x00E3, [0x0061, 0x0303]), (0x00E4, 0x00E4, [0x0061, 0x0308]),
   (0x00E5, 0x00E5, [0x0061, 0x030A]), (0x00E7, 0x00E7, [0x0063, 0x0327]),
   (0x00E8, 0x00E8, [0x0065, 0x0300]), (0x00E9, 0x00E9, [0x0065, 0x0301]),
   (0x00EA, 0x00EA, [0x0065, 0x0302]), (0x00EB, 0x00EB, [0x0065, 0x0308]),
   (0x00EC, 0x00EC, [0x0069, 0x0300]), (0x00ED, 0x00ED, [0x0069, 0x0301]),
   (0x00EE, 0x00EE, [0x0069, 0x0302]), (0x00EF, 0x00EF, [0x0069, 0x0308]),
   (0x00F1, 0x00F1, [0x006E, 0x0303]), (0x00F2, 0x00F2, [0x006F, 0x0300]),
   (0x00F3, 0x00F3, [0x006F, 0x0301]), (0x00F4, 0x00F4, [0x006F, 0x0302]),
   (0x00F5, 0x00F5, [0x006F, 0x0303]), (0x00F6, 0x00F6, [0x006F, 0x0308]),
   (0x00F9, 0x00F9, [0x0075, 0x0300]), (0x00FA, 0x00FA, [0x0075, 0x0301]),
   (0x00FB, 0x00FB, [0x0075, 0x0302]), (0x00FC, 0x00FC, [0x0075, 0x0308]),
   (0x00FD, 0x00FD, [0x0079, 0x0301]), (0x00FF, 0x00FF, [0x0079, 0x0308]),
   (0x0100, 0x0100, [0x0041, 0x0304]), (0x0101, 0x0101, [0x0061, 0x0304]),
   (0x0102, 0x0102, [0x0041, 0x0306]), (0x0103, 0x0103, [0x0061, 0x0306]),
   (0x0104, 0x0104, [0x0041, 0x0328]), (0x0105, 0x0105, [0x0061, 0x0328]),
   (0x0106, 0x0106, [0x0043, 0x0301]), (0x0107, 0x0107, [0x0063, 0x0301]),
   (0x0108, 0x0108, [0x0043, 0x0302]), (0x0109, 0x0109, [0x0063, 0x0302]),
   (0x010A, 0x010A, [0x0043, 0x0307]), (0x010B, 0x010B, [0x0063, 0x0307]),
   (0x010C, 0x010C, [0x0043, 0x030C]), (0x010D, 0x010D, [0x0063, 0x030C]),
   (0x010E, 0x010E, [0x0044, 0x030C]), (0x010F, 0x010F, [0x0064, 0x030C]),
   (0x0112, 0x0112, [0x0045, 0x0304]), (0x0113, 0x0113, [0x0065, 0x0304]),
   (0x0114, 0x0114, [0x0045, 0x0306]), (0x0115, 0x0115, [0x0065, 0x0306]),
   (0x0116, 0x0116, [0x0045, 0x0307]), (0x0117, 0x0117, [0x0065, 0x0307]),
   (0x0118, 0x0118, [0x0045, 0x0328]), (0x0119, 0x0119, [0x0065, 0x0328]),
   (0x011A, 0x011A, [0x0045, 0x030C]), (0x011B, 0x011B, [0x0065, 0x030C]),
   (0x011C, 0x011C, [0x0047, 0x0302]), (0x011D, 0x011D, [0x0067, 0x0302]),
   (0x011E, 0x011E, [0x0047, 0x0306]), (0x011F, 0x011F, [0x0067, 0x0306]),
   (0x0120, 0x0120, [0x0047, 0x0307]), (0x0121, 0x0121, [0x0067, 0x0307]),
   (0x0122, 0x0122, [0x0047, 0x0327]), (0x0123, 0x0123, [0x0067, 0x0327]),
   (0x0124, 0x0124, [0x0048, 0x0302]), (0x0125, 0x0125, [0x0068, 0x0302]),
   (0x0128, 0x0128, [0x0049, 0x0303]), (0x0129, 0x0129, [0x0069, 0x0303]),
   (0x012A, 0x012A, [0x0049, 0x0304]), (0x012B, 0x012B, [0x0069, 0x0304]),
   (0x012C, 0x012C, [0x0049, 0x0306]), (0x012D, 0x012D, [0x0069, 0x0306]),
   (0x012E, 0x012E, [0x0049, 0x0328]), (0x012F, 0x012F, [0x0069, 0x0328]),
   (0x0130, 0x0130, [0x0049, 0x0307]), (0x0132, 0x0132, [0x0049, 0x004A]),
   (0x0133, 0x0133, [0x0069, 0x006A]), (0x0134, 0x0134, [0x004A, 0x0302]),
   (0x0135, 0x0135, [0x006A, 0x0302]), (0x0136, 0x0136, [0x004B, 0x0327]),
   (0x0137, 0x0137, [0x006B, 0x0327]), (0x0139, 0x0139, [0x004C, 0x0301]),
   (0x013A, 0x013A, [0x006C, 0x0301]), (0x013B, 0x013B, [0x004C, 0x0327]),
   (0x013C, 0x013C, [0x006C, 0x0327]), (0x013D, 0x013D, [0x004C, 0x030C]),
   (0x013E, 0x013E, [0x006C, 0x030C]), (0x013F, 0x013F, [0x004C, 0x00B7]),
   (0x0140, 0x0140, [0x006C, 0x00B7]), (0x0143, 0x0143, [0x004E, 0x0301]),
   (0x0144, 0x0144, [0x006E, 0x0301]), (0x0145, 0x0145, [0x004E, 0x0327]),
   (0x0146, 0x0146, [0x006E, 0x0327]), (0x0147, 0x0147, [0x004E, 0x030C]),
   (0x0148, 0x0148, [0x006E, 0x030C]), (0x0149, 0x0149, [0x02BC, 0x006E]),
   (0x014C, 0x014C, [0x004F, 0x0304]), (0x014D, 0x014D, [0x006F, 0x0304]),
   (0x014E, 0x014E, [0x004F, 0x0306]), (0x014F, 0x014F, [0x006F, 0x0306]),
   (0x0150, 0x0150, [0x004F, 0x030B]), (0x0151, 0x0151, [0x006F, 0x030B]),
   (0x0154, 0x0154, [0x0052, 0x0301]), (0x0155, 0x0155, [0x0072, 0x0301]),
   (0x0156, 0x0156, [0x0052, 0x0327]), (0x0157, 0x0157, [0x0072, 0x0327]),
   (0x0158, 0x0158, [0x0052, 0x030C]), (0x0159, 0x0159, [0x0072, 0x030C]),
   (0x015A, 0x015A, [0x0053, 0x0301]), (0x015B, 0x015B, [0x0073, 0x0301]),
   (0x015C, 0x015C, [0x0053, 0x0302]), (0x015D, 0x015D, [0x0073, 0x0302]),
   (0x015E, 0x015E, [0x0053, 0x0327]), (0x015F, 0x015F, [0x0073, 0x0327]),
   (0x0160, 0x0160, [0x0053, 0x030C]), (0x0161, 0x0161, [0x0073, 0x030C]),
   (0x0162, 0x0162, [0x0054, 0x0327]), (0x0163, 0x0163, [0x0074, 0x0327]),
   (0x0164, 0x0164, [0x0054, 0x030C]), (0x0165, 0x0165, [0x0074, 0x030C]),
   (0x0168, 0x0168, [0x0055, 0x0303]), (0x0169, 0x0169, [0x0075, 0x0303]),
   (0x016A, 0x016A, [0x0055, 0x0304]), (0x016B, 0x016B, [0x0075, 0x0304]),
   (0x016C, 0x016C, [0x0055, 0x0306]), (0x016D, 0x016D, [0x0075, 0x0306]),
   (0x016E, 0x016E, [0x0055, 0x030A]), (0x016F, 0x016F, [0x0075, 0x030A]),
   (0x0170, 0x0170, [0x0055, 0x030B]), (0x0171, 0x0171, [0x0075, 0x030B]),
   (0x0172, 0x0172, [0x0055, 0x0328]), (0x0173, 0x0173, [0x0075, 0x0328]),
   (0x0174, 0x0174, [0x0057, 0x0302]), (0x0175, 0x0175, [0x0077, 0x0302]),
   (0x0176, 0x0176, [0x0059, 0x0302]), (0x0177, 0x0177, [0x0079, 0x0302]),
   (0x0178, 0x0178, [0x0059, 0x0308]), (0x0179, 0x0179, [0x005A, 0x0301]),
   (0x017A, 0x017A, [0x007A, 0x0301]), (0x017B, 0x017B, [0x005A, 0x0307]),
   (0x017C, 0x017C, [0x007A, 0x0307]), (0x017D, 0x017D, [0x005A, 0x030C]),
   (0x017E, 0x017E, [0x007A, 0x030C]), (0x017F, 0x017F, [0x0073]),
   (0x01A0, 0x01A0, [0x004F, 0x031B]), (0x01A1, 0x01A1, [0x006F, 0x031B]),
   (0x01AF, 0x01AF, [0x0055, 0x031B]), (0x01B0, 0x01B0, [0x0075, 0x031B]),
   (0x01C4, 0x01C4, [0x0044, 0x005A, 0x030C]), (0x01C5, 0x01C5, [0x0044, 0x007A, 0x030C]),
   (0x01C6, 0x01C6, [0x0064, 0x007A, 0x030C]), (0x01C7, 0x01C7, [0x004C, 0x004A]),
   (0x01C8, 0x01C8, [0x004C, 0x006A]), (0x01C9, 0x01C9, [0x006C, 0x006A]),
   (0x01CA, 0x01CA, [0x004E, 0x004A]), (0x01CB, 0x01CB, [0x004E, 0x006A]),
   (0x01CC, 0x01CC, [0x006E, 0x006A]), (0x01CD, 0x01CD, [0x0041, 0x030C]),
   (0x01CE, 0x01CE, [0x0061, 0x030C]), (0x01CF, 0x01CF, [0x0049, 0x030C]),
   (0x01D0, 0x01D0, [0x0069, 0x030C]), (0x01D1, 0x01D1, [0x004F, 0x030C]),
   (0x01D2, 0x01D2, [0x006F, 0x030C]), (0x01D3, 0x01D3, [0x0055, 0x030C]),
   (0x01D4, 0x01D4, [0x0075, 0x030C]), (0x01D5, 0x01D5, [0x0055, 0x0308, 0x0304]),
   (0x01D6, 0x01D6, [0x0075, 0x0308, 0x0304]), (0x01D7, 0x01D7, [0x0055, 0x0308, 0x0301]),
   (0x01D8, 0x01D8, [0x0075, 0x0308, 0x0301]), (0x01D9, 0x01D9, [0x0055, 0x0308, 0x030C]),
   (0x01DA, 0x01DA, [0x0075, 0x0308, 0x030C]), (0x01DB, 0x01DB, [0x0055, 0x0308, 0x0300]),
   (0x01DC, 0x01DC, [0x0075, 0x0308, 0x0300]), (0x01DE, 0x01DE, [0x0041, 0x0308, 0x0304]),
   (0x01DF, 0x01DF, [0x0061, 0x0308, 0x0304]), (0x01E0, 0x01E0, [0x0041, 0x0307, 0x0304]),
   (0x01E1, 0x01E1, [0x0061, 0x0307, 0x0304]), (0x01E2, 0x01E2, [0x00C6, 0x0304]),
   (0x01E3, 0x01E3, [0x00E6, 0x0304]), (0x01E6, 0x01E6, [0x0047, 0x030C]),
   (0x01E7, 0x01E7, [0x0067, 0x030C]), (0x01E8, 0x01E8, [0x004B, 0x030C]),
   (0x01E9, 0x01E9, [0x006B, 0x030C]), (0x01EA, 0x01EA, [0x004F, 0x0328]),
   (0x01EB, 0x01EB, [0x006F, 0x0328]), (0x01EC, 0x01EC, [0x004F, 0x0328, 0x0304]),
   (0x01ED, 0x01ED, [0x006F, 0x0328, 0x0304]), (0x01EE, 0x01EE, [0x01B7, 0x030C]),
   (0x01EF, 0x01EF, [0x0292, 0x030C]), (0x01F0, 0x01F0, [0x006A, 0x030C]),
   (0x01F1, 0x01F1, [0x0044, 0x005A]), (0x01F2, 0x01F2, [0x0044, 0x007A]),
   (0x01F3, 0x01F3, [0x0064, 0x007A]), (0x01F4, 0x01F4, [0x0047, 0x0301]),
   (0x01F5, 0x01F5, [0x0067, 0x0301]), (0x01F8, 0x01F8, [0x004E, 0x0300]),
   (0x01F9, 0x01F9, [0x006E, 0x0300]), (0x01FA, 0x01FA, [0x0041, 0x030A, 0x0301])]

/-- Decompositions from U+01FB to U+10FC. -/
def decomposeLatinB : List (Nat × Nat × List Nat) :=
  [(0x01FB, 0x01FB, [0x0061, 0x030A, 0x0301]), (0x01FC, 0x01FC, [0x00C6, 0x0301]),
   (0x01FD, 0x01FD, [0x00E6, 0x0301]), (0x01FE, 0x01FE, [0x00D8, 0x0301]),
   (0x01FF, 0x01FF, [0x00F8, 0x0301]), (0x0200, 0x0200, [0x0041, 0x030F]),
   (0x0201, 0x0201, [0x0061, 0x030F]), (0x0202, 0x0202, [0x0041, 0x0311]),
   (0x0203, 0x0203, [0x0061, 0x0311]), (0x0204, 0x0204, [0x0045, 0x030F]),
   (0x0205, 0x0205, [0x0065, 0x030F]), (0x0206, 0x0206, [0x0045, 0x0311]),
   (0x0207, 0x0207, [0x0065, 0x0311]), (0x0208, 0x0208, [0x0049, 0x030F]),
   (0x0209, 0x0209, [0x0069, 0x030F]), (0x020A, 0x020A, [0x0049, 0x0311]),
   (0x020B, 0x020B, [0x0069, 0x0311]), (0x020C, 0x020C, [0x004F, 0x030F]),
   (0x020D, 0x020D, [0x006F, 0x030F]), (0x020E, 0x020E, [0x004F, 0x0311]),
   (0x020F, 0x020F, [0x006F, 0x0311]), (0x0210, 0x0210, [0x0052, 0x030F]),
   (0x0211, 0x0211, [0x0072, 0x030F]), (0x0212, 0x0212, [0x0052, 0x0311]),
   (0x0213, 0x0213, [0x0072, 0x0311]), (0x0214, 0x0214, [0x0055, 0x030F]),
   (0x0215, 0x0215, [0x0075, 0x030F]), (0x0216, 0x0216, [0x0055, 0x0311]),
   (0x0217, 0x0217, [0x0075, 0x0311]), (0x0218, 0x0218, [0x0053, 0x0326]),
   (0x0219, 0x0219, [0x0073, 0x0326]), (0x021A, 0x021A, [0x0054, 0x0326]),
   (0x021B, 0x021B, [0x0074, 0x0326]), (0x021E, 0x021E, [0x0048, 0x030C]),
   (0x021F, 0x021F, [0x0068, 0x030C]), (0x0226, 0x0226, [0x0041, 0x0307]),
   (0x0227, 0x0227, [0x0061, 0x0307]), (0x0228, 0x0228, [0x0045, 0x0327]),
   (0x0229, 0x0229, [0x0065, 0x0327]), (0x022A, 0x022A, [0x004F, 0x0308, 0x0304]),
   (0x022B, 0x022B, [0x006F, 0x0308, 0x0304]), (0x022C, 0x022C, [0x004F, 0x0303, 0x0304]),
   (0x022D, 0x022D, [0x006F, 0x0303, 0x0304]), (0x022E, 0x022E, [0x004F, 0x0307]),
   (0x022F, 0x022F, [0x006F, 0x0307]), (0x0230, 0x0230, [0x004F, 0x0307, 0x0304]),
   (0x0231, 0x0231, [0x006F, 0x0307, 0x0304]), (0x0232, 0x0232, [0x0059, 0x0304]),
   (0x0233, 0x0233, [0x0079, 0x0304]), (0x02B0, 0x02B0, [0x0068]), (0x02B1, 0x02B1, [0x0266]),
   (0x02B2, 0x02B2, [0x006A]), (0x02B3, 0x02B3, [0x0072]), (0x02B4, 0x02B4, [0x0279]),
   (0x02B5, 0x02B5, [0x027B]), (0x02B6, 0x02B6, [0x0281]), (0x02B7, 0x02B7, [0x0077]),
   (0x02B8, 0x02B8, [0x0079]), (0x02D8, 0x02D8, [0x0020, 0x0306]),
   (0x02D9, 0x02D9, [0x0020, 0x0307]), (0x02DA, 0x02DA, [0x0020, 0x030A]),
   (0x02DB, 0x02DB, [0x0020, 0x0328]), (0x02DC, 0x02DC, [0x0020, 0x0303]),
   (0x02DD, 0x02DD, [0x0020, 0x030B]), (0x02E0, 0x02E0, [0x0263]), (0x02E1, 0x02E1, [0x006C]),
   (0x02E2, 0x02E2, [0x0073]), (0x02E3, 0x02E3, [0x0078]), (0x02E4, 0x02E4, [0x0295]),
   (0x0340, 0x0341, [0x0300]), (0x0343, 0x0343, [0x0313]), (0x0344, 0x0344, [0x0308, 0x0301]),
   (0x0374, 0x0374, [0x02B9]), (0x037A, 0x037A, [0x0020, 0x0345]), (0x037E, 0x037E, [0x003B]),
   (0x0384, 0x0384, [0x0020, 0x0301]), (0x0385, 0x0385, [0x0020, 0x0308, 0x0301]),
   (0x0386, 0x0386, [0x0391, 0x0301]), (0x0387, 0x0387, [0x00B7]),
   (0x0388, 0x0388, [0x0395, 0x0301]), (0x0389, 0x0389, [0x0397, 0x0301]),
   (0x038A, 0x038A, [0x0399, 0x0301]), (0x038C, 0x038C, [0x039F, 0x0301]),
   (0x038E, 0x038E, [0x03A5, 0x0301]), (0x038F, 0x038F, [0x03A9, 0x0301]),
   (0x0390, 0x0390, [0x03B9, 0x0308, 0x0301]), (0x03AA, 0x03AA, [0x0399, 0x0308]),
   (0x03AB, 0x03AB, [0x03A5, 0x0308]), (0x03AC, 0x03AC, [0x03B1, 0x0301]),
   (0x03AD, 0x03AD, [0x03B5, 0x0301]), (0x03AE, 0x03AE, [0x03B7, 0x0301]),
   (0x03AF, 0x03AF, [0x03B9, 0x0301]), (0x03B0, 0x03B0, [0x03C5, 0x0308, 0x0301]),
   (0x03CA, 0x03CA, [0x03B9, 0x0308]), (0x03CB, 0x03CB, [0x03C5, 0x0308]),
   (0x03CC, 0x03CC, [0x03BF, 0x0301]), (0x03CD, 0x03CD, [0x03C5, 0x0301]),
   (0x03CE, 0x03CE, [0x03C9, 0x0301]), (0x03D0, 0x03D0, [0x03B2]), (0x03D1, 0x03D1, [0x03B8]),
   (0x03D2, 0x03D2, [0x03A5]), (0x03D3, 0x03D3, [0x03A5, 0x0301]),
   (0x03D4, 0x03D4, [0x03A5, 0x0308]), (0x03D5, 0x03D5, [0x03C6]), (0x03D6, 0x03D6, [0x03C0]),
   (0x03F0, 0x03F0, [0x03BA]), (0x03F1, 0x03F2, [0x03C1]), (0x03F4, 0x03F4, [0x0398]),
   (0x03F5, 0x03F5, [0x03B5]), (0x03F9, 0x03F9, [0x03A3]), (0x0400, 0x0400, [0x0415, 0x0300]),
   (0x0401, 0x0401, [0x0415, 0x0308]), (0x0403, 0x0403, [0x0413, 0x0301]),
   (0x0407, 0x0407, [0x0406, 0x0308]), (0x040C, 0x040C, [0x041A, 0x0301]),
   (0x040D, 0x040D, [0x0418, 0x0300]), (0x040E, 0x040E, [0x0423, 0x0306]),
   (0x0419, 0x0419, [0x0418, 0x0306]), (0x0439, 0x0439, [0x0438, 0x0306]),
   (0x0450, 0x0450, [0x0435, 0x0300]), (0x0451, 0x0451, [0x0435, 0x0308]),
   (0x0453, 0x0453, [0x0433, 0x0301]), (0x0457, 0x0457, [0x0456, 0x0308]),
   (0x045C, 0x045C, [0x043A, 0x0301]), (0x045D, 0x045D, [0x0438, 0x0300]),
   (0x045E, 0x045E, [0x0443, 0x0306]), (0x0476, 0x0477, [0x0474, 0x030F]),
   (0x04C1, 0x04C1, [0x0416, 0x0306]), (0x04C2, 0x04C2, [0x0436, 0x0306]),
   (0x04D0, 0x04D0, [0x0410, 0x0306]), (0x04D1, 0x04D1, [0x0430, 0x0306]),
   (0x04D2, 0x04D2, [0x0410, 0x0308]), (0x04D3, 0x04D3, [0x0430, 0x0308]),
   (0x04D6, 0x04D6, [0x0415, 0x0306]), (0x04D7, 0x04D7, [0x0435, 0x0306]),
   (0x04DA, 0x04DB, [0x04D8, 0x0308]), (0x04DC, 0x04DC, [0x0416, 0x0308]),
   (0x04DD, 0x04DD, [0x0436, 0x0308]), (0x04DE, 0x04DE, [0x0417, 0x0308]),
   (0x04DF, 0x04DF, [0x0437, 0x0308]), (0x04E2, 0x04E2, [0x0418, 0x0304]),
   (0x04E3, 0x04E3, [0x0438, 0x0304]), (0x04E4, 0x04E4, [0x0418, 0x0308]),
   (0x04E5, 0x04E5, [0x0438, 0x0308]), (0x04E6, 0x04E6, [0x041E, 0x0308]),
   (0x04E7, 0x04E7, [0x043E, 0x0308]), (0x04EA, 0x04EB, [0x04E8, 0x0308]),
   (0x04EC, 0x04EC, [0x042D, 0x0308]), (0x04ED, 0x04ED, [0x044D, 0x0308]),
   (0x04EE, 0x04EE, [0x0423, 0x0304]), (0x04EF, 0x04EF, [0x0443, 0x0304]),
   (0x04F0, 0x04F0, [0x0423, 0x0308]), (0x04F1, 0x04F1, [0x0443, 0x0308]),
   (0x04F2, 0x04F2, [0x0423, 0x030B]), (0x04F3, 0x04F3, [0x0443, 0x030B]),
   (0x04F4, 0x04F4, [0x0427, 0x0308]), (0x04F5, 0x04F5, [0x0447, 0x0308]),
   (0x04F8, 0x04F8, [0x042B, 0x0308]), (0x04F9, 0x04F9, [0x044B, 0x0308]),
   (0x0587, 0x0587, [0x0565, 0x0582]), (0x0622, 0x0622, [0x0627, 0x0653]),
   (0x0623, 0x0623, [0x0627, 0x0654]), (0x0624, 0x0624, [0x0648, 0x0654]),
   (0x0625, 0x0625, [0x0627, 0x0655]), (0x0626, 0x0626, [0x064A, 0x0654]),
   (0x0675, 0x0675, [0x0627, 0x0674]), (0x0676, 0x0676, [0x0648, 0x0674]),
   (0x0677, 0x0677, [0x06C7, 0x0674]), (0x0678, 0x0678, [0x064A, 0x0674]),
   (0x06C0, 0x06C0, [0x06D5, 0x0654]), (0x06C2, 0x06C2, [0x06C1, 0x0654]),
   (0x06D3, 0x06D3, [0x06D2, 0x0654]), (0x0929, 0x0929, [0x0928, 0x093C]),
   (0x0931, 0x0931, [0x0930, 0x093C]), (0x0934, 0x0934, [0x0933, 0x093C]),
   (0x0958, 0x095A, [0x0915, 0x093C]), (0x095B, 0x095B, [0x091C, 0x093C]),
   (0x095C, 0x095D, [0x0921, 0x093C]), (0x095E, 0x095E, [0x092B, 0x093C]),
   (0x095F, 0x095F, [0x092F, 0x093C]), (0x09CB, 0x09CB, [0x09C7, 0x09BE]),
   (0x09CC, 0x09CC, [0x09C7, 0x09D7]), (0x09DC, 0x09DD, [0x09A1, 0x09BC]),
   (0x09DF, 0x09DF, [0x09AF, 0x09BC]), (0x0A33, 0x0A33, [0x0A32, 0x0A3C]),
   (0x0A36, 0x0A36, [0x0A38, 0x0A3C]), (0x0A59, 0x0A5A, [0x0A16, 0x0A3C]),
   (0x0A5B, 0x0A5B, [0x0A1C, 0x0A3C]), (0x0A5E, 0x0A5E, [0x0A2B, 0x0A3C]),
   (0x0B48, 0x0B48, [0x0B47, 0x0B56]), (0x0B4B, 0x0B4B, [0x0B47, 0x0B3E]),
   (0x0B4C, 0x0B4C, [0x0B47, 0x0B57]), (0x0B5C, 0x0B5D, [0x0B21, 0x0B3C]),
   (0x0B94, 0x0B94, [0x0B92, 0x0BD7]), (0x0BCA, 0x0BCB, [0x0BC6, 0x0BBE]),
   (0x0BCC, 0x0BCC, [0x0BC6, 0x0BD7]), (0x0C48, 0x0C48, [0x0C46, 0x0C56]),
   (0x0CC0, 0x0CC0, [0x0CBF, 0x0CD5]), (0x0CC7, 0x0CC7, [0x0CC6, 0x0CD5]),
   (0x0CC8, 0x0CC8, [0x0CC6, 0x0CD6]), (0x0CCA, 0x0CCA, [0x0CC6, 0x0CC2]),
   (0x0CCB, 0x0CCB, [0x0CC6, 0x0CC2, 0x0CD5]), (0x0D4A, 0x0D4B, [0x0D46, 0x0D3E]),
   (0x0D4C, 0x0D4C, [0x0D46, 0x0D57]), (0x0DDA, 0x0DDA, [0x0DD9, 0x0DCA]),
   (0x0DDC, 0x0DDC, [0x0DD9, 0x0DCF]), (0x0DDD, 0x0DDD, [0x0DD9, 0x0DCF, 0x0DCA]),
   (0x0DDE, 0x0DDE, [0x0DD9, 0x0DDF]), (0x0E33, 0x0E33, [0x0E4D, 0x0E32]),
   (0x0EB3, 0x0EB3, [0x0ECD, 0x0EB2]), (0x0EDC, 0x0EDC, [0x0EAB, 0x0E99]),
   (0x0EDD, 0x0EDD, [0x0EAB, 0x0EA1]), (0x0F0C, 0x0F0C, [0x0F0B]),
   (0x0F43, 0x0F43, [0x0F42, 0x0FB7]), (0x0F4D, 0x0F4D, [0x0F4C, 0x0FB7]),
   (0x0F52, 0x0F52, [0x0F51, 0x0FB7]), (0x0F57, 0x0F57, [0x0F56, 0x0FB7]),
   (0x0F5C, 0x0F5C, [0x0F5B, 0x0FB7]), (0x0F69, 0x0F69, [0x0F40, 0x0FB5]),
   (0x0F73, 0x0F73, [0x0F71, 0x0F72]), (0x0F75, 0x0F75, [0x0F71, 0x0F74]),
   (0x0F76, 0x0F76, [0x0FB2, 0x0F80]), (0x0F77, 0x0F77, [0x0FB2, 0x0F71, 0x0F80]),
   (0x0F78, 0x0F78, [0x0FB3, 0x0F80]), (0x0F79, 0x0F79, [0x0FB3, 0x0F71, 0x0F80]),
   (0x0F81, 0x0F81, [0x0F71, 0x0F80]), (0x0F93, 0x0F93, [0x0F92, 0x0FB7]),
   (0x0F9D, 0x0F9D, [0x0F9C, 0x0FB7]), (0x0FA2, 0x0FA2, [0x0FA1, 0x0FB7]),
   (0x0FA7, 0x0FA7, [0x0FA6, 0x0FB7]), (0x0FAC, 0x0FAC, [0x0FAB, 0x0FB7]),
   (0x0FB9, 0x0FB9, [0x0F90, 0x0FB5]), (0x1026, 0x1026, [0x1025, 0x102E]),
   (0x10FC, 0x10FC, [0x10DC])]

/-- The rows of this module in ascending order. -/
def decomposeLatin : List (Nat × Nat × List Nat) :=
  decomposeLatinA ++ decomposeLatinB

end CorpusSearch.Text.Table
