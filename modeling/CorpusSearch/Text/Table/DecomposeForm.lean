-- Full compatibility decompositions (Unicode 14.0) of presentation forms, U+FB00 to U+FFFF.
-- A row `(first, last, parts)` sends `first` to `parts`; a later code point of the row counts its
-- distance from `first` on to the first part.
namespace CorpusSearch.Text.Table

/-- Decompositions from U+FB00 to U+FC22. -/
def decomposeFormA : List (Nat × Nat × List Nat) :=
  [(0xFB00, 0xFB00, [0x0066, 0x0066]), (0xFB01, 0xFB01, [0x0066, 0x0069]),
   (0xFB02, 0xFB02, [0x0066, 0x006C]), (0xFB03, 0xFB03, [0x0066, 0x0066, 0x0069]),
   (0xFB04, 0xFB04, [0x0066, 0x0066, 0x006C]), (0xFB05, 0xFB05, [0x0073, 0x0074]),
   (0xFB06, 0xFB06, [0x0073, 0x0074]), (0xFB13, 0xFB13, [0x0574, 0x0576]),
   (0xFB14, 0xFB14, [0x0574, 0x0565]), (0xFB15, 0xFB15, [0x0574, 0x056B]),
   (0xFB16, 0xFB16, [0x057E, 0x0576]), (0xFB17, 0xFB17, [0x0574, 0x056D]),
   (0xFB1D, 0xFB1D, [0x05D9, 0x05B4]), (0xFB1F, 0xFB1F, [0x05F2, 0x05B7]),
   (0xFB20, 0xFB20, [0x05E2]), (0xFB21, 0xFB21, [0x05D0]), (0xFB22, 0xFB23, [0x05D3]),
   (0xFB24, 0xFB26, [0x05DB]), (0xFB27, 0xFB27, [0x05E8]), (0xFB28, 0xFB28, [0x05EA]),
   (0xFB29, 0xFB29, [0x002B]), (0xFB2A, 0xFB2A, [0x05E9, 0x05C1]),
   (0xFB2B, 0xFB2B, [0x05E9, 0x05C2]), (0xFB2C, 0xFB2C, [0x05E9, 0x05BC, 0x05C1]),
   (0xFB2D, 0xFB2D, [0x05E9, 0x05BC, 0x05C2]), (0xFB2E, 0xFB2E, [0x05D0, 0x05B7]),
   (0xFB2F, 0xFB2F, [0x05D0, 0x05B8]), (0xFB30, 0xFB36, [0x05D0, 0x05BC]),
   (0xFB38, 0xFB3C, [0x05D8, 0x05BC]), (0xFB3E, 0xFB3E, [0x05DE, 0x05BC]),
   (0xFB40, 0xFB41, [0x05E0, 0x05BC]), (0xFB43, 0xFB44, [0x05E3, 0x05BC]),
   (0xFB46, 0xFB4A, [0x05E6, 0x05BC]), (0xFB4B, 0xFB4B, [0x05D5, 0x05B9]),
   (0xFB4C, 0xFB4C, [0x05D1, 0x05BF]), (0xFB4D, 0xFB4D, [0x05DB, 0x05BF]),
   (0xFB4E, 0xFB4E, [0x05E4, 0x05BF]), (0xFB4F, 0xFB4F, [0x05D0, 0x05DC]),
   (0xFB50, 0xFB50, [0x0671]), (0xFB51, 0xFB51, [0x0671]), (0xFB52, 0xFB52, [0x067B]),
   (0xFB53, 0xFB53, [0x067B]), (0xFB54, 0xFB54, [0x067B]), (0xFB55, 0xFB55, [0x067B]),
   (0xFB56, 0xFB56, [0x067E]), (0xFB57, 0xFB57, [0x067E]), (0xFB58, 0xFB58, [0x067E]),
   (0xFB59, 0xFB59, [0x067E]), (0xFB5A, 0xFB5A, [0x0680]), (0xFB5B, 0xFB5B, [0x0680]),
   (0xFB5C, 0xFB5C, [0x0680]), (0xFB5D, 0xFB5D, [0x0680]), (0xFB5E, 0xFB5E, [0x067A]),
   (0xFB5F, 0xFB5F, [0x067A]), (0xFB60, 0xFB60, [0x067A]), (0xFB61, 0xFB61, [0x067A]),
   (0xFB62, 0xFB62, [0x067F]), (0xFB63, 0xFB63, [0x067F]), (0xFB64, 0xFB64, [0x067F]),
   (0xFB65, 0xFB65, [0x067F]), (0xFB66, 0xFB66, [0x0679]), (0xFB67, 0xFB67, [0x0679]),
   (0xFB68, 0xFB68, [0x0679]), (0xFB69, 0xFB69, [0x0679]), (0xFB6A, 0xFB6A, [0x06A4]),
   (0xFB6B, 0xFB6B, [0x06A4]), (0xFB6C, 0xFB6C, [0x06A4]), (0xFB6D, 0xFB6D, [0x06A4]),
   (0xFB6E, 0xFB6E, [0x06A6]), (0xFB6F, 0xFB6F, [0x06A6]), (0xFB70, 0xFB70, [0x06A6]),
   (0xFB71, 0xFB71, [0x06A6]), (0xFB72, 0xFB72, [0x0684]), (0xFB73, 0xFB73, [0x0684]),
   (0xFB74, 0xFB74, [0x0684]), (0xFB75, 0xFB75, [0x0684]), (0xFB76, 0xFB76, [0x0683]),
   (0xFB77, 0xFB77, [0x0683]), (0xFB78, 0xFB78, [0x0683]), (0xFB79, 0xFB79, [0x0683]),
   (0xFB7A, 0xFB7A, [0x0686]), (0xFB7B, 0xFB7B, [0x0686]), (0xFB7C, 0xFB7C, [0x0686]),
   (0xFB7D, 0xFB7E, [0x0686]), (0xFB7F, 0xFB7F, [0x0687]), (0xFB80, 0xFB80, [0x0687]),
   (0xFB81, 0xFB81, [0x0687]), (0xFB82, 0xFB82, [0x068D]), (0xFB83, 0xFB83, [0x068D]),
   (0xFB84, 0xFB84, [0x068C]), (0xFB85, 0xFB85, [0x068C]), (0xFB86, 0xFB86, [0x068E]),
   (0xFB87, 0xFB87, [0x068E]), (0xFB88, 0xFB88, [0x0688]), (0xFB89, 0xFB89, [0x0688]),
   (0xFB8A, 0xFB8A, [0x0698]), (0xFB8B, 0xFB8B, [0x0698]), (0xFB8C, 0xFB8C, [0x0691]),
   (0xFB8D, 0xFB8D, [0x0691]), (0xFB8E, 0xFB8E, [0x06A9]), (0xFB8F, 0xFB8F, [0x06A9]),
   (0xFB90, 0xFB90, [0x06A9]), (0xFB91, 0xFB91, [0x06A9]), (0xFB92, 0xFB92, [0x06AF]),
   (0xFB93, 0xFB93, [0x06AF]), (0xFB94, 0xFB94, [0x06AF]), (0xFB95, 0xFB95, [0x06AF]),
   (0xFB96, 0xFB96, [0x06B3]), (0xFB97, 0xFB97, [0x06B3]), (0xFB98, 0xFB98, [0x06B3]),
   (0xFB99, 0xFB99, [0x06B3]), (0xFB9A, 0xFB9A, [0x06B1]), (0xFB9B, 0xFB9B, [0x06B1]),
   (0xFB9C, 0xFB9C, [0x06B1]), (0xFB9D, 0xFB9D, [0x06B1]), (0xFB9E, 0xFB9E, [0x06BA]),
   (0xFB9F, 0xFBA0, [0x06BA]), (0xFBA1, 0xFBA1, [0x06BB]), (0xFBA2, 0xFBA2, [0x06BB]),
   (0xFBA3, 0xFBA3, [0x06BB]), (0xFBA4, 0xFBA4, [0x06D5, 0x0654]),
   (0xFBA5, 0xFBA5, [0x06D5, 0x0654]), (0xFBA6, 0xFBA6, [0x06C1]), (0xFBA7, 0xFBA7, [0x06C1]),
   (0xFBA8, 0xFBA8, [0x06C1]), (0xFBA9, 0xFBA9, [0x06C1]), (0xFBAA, 0xFBAA, [0x06BE]),
   (0xFBAB, 0xFBAB, [0x06BE]), (0xFBAC, 0xFBAC, [0x06BE]), (0xFBAD, 0xFBAD, [0x06BE]),
   (0xFBAE, 0xFBAE, [0x06D2]), (0xFBAF, 0xFBAF, [0x06D2]), (0xFBB0, 0xFBB0, [0x06D2, 0x0654]),
   (0xFBB1, 0xFBB1, [0x06D2, 0x0654]), (0xFBD3, 0xFBD3, [0x06AD]), (0xFBD4, 0xFBD4, [0x06AD]),
   (0xFBD5, 0xFBD5, [0x06AD]), (0xFBD6, 0xFBD6, [0x06AD]), (0xFBD7, 0xFBD7, [0x06C7]),
   (0xFBD8, 0xFBD8, [0x06C7]), (0xFBD9, 0xFBD9, [0x06C6]), (0xFBDA, 0xFBDA, [0x06C6]),
   (0xFBDB, 0xFBDB, [0x06C8]), (0xFBDC, 0xFBDC, [0x06C8]), (0xFBDD, 0xFBDD, [0x06C7, 0x0674]),
   (0xFBDE, 0xFBDE, [0x06CB]), (0xFBDF, 0xFBDF, [0x06CB]), (0xFBE0, 0xFBE0, [0x06C5]),
   (0xFBE1, 0xFBE1, [0x06C5]), (0xFBE2, 0xFBE2, [0x06C9]), (0xFBE3, 0xFBE3, [0x06C9]),
   (0xFBE4, 0xFBE4, [0x06D0]), (0xFBE5, 0xFBE5, [0x06D0]), (0xFBE6, 0xFBE6, [0x06D0]),
   (0xFBE7, 0xFBE7, [0x06D0]), (0xFBE8, 0xFBE8, [0x0649]), (0xFBE9, 0xFBE9, [0x0649]),
   (0xFBEA, 0xFBEA, [0x064A, 0x0654, 0x0627]), (0xFBEB, 0xFBEB, [0x064A, 0x0654, 0x0627]),
   (0xFBEC, 0xFBEC, [0x064A, 0x0654, 0x06D5]), (0xFBED, 0xFBED, [0x064A, 0x0654, 0x06D5]),
   (0xFBEE, 0xFBEE, [0x064A, 0x0654, 0x0648]), (0xFBEF, 0xFBEF, [0x064A, 0x0654, 0x0648]),
   (0xFBF0, 0xFBF0, [0x064A, 0x0654, 0x06C7]), (0xFBF1, 0xFBF1, [0x064A, 0x0654, 0x06C7]),
   (0xFBF2, 0xFBF2, [0x064A, 0x0654, 0x06C6]), (0xFBF3, 0xFBF3, [0x064A, 0x0654, 0x06C6]),
   (0xFBF4, 0xFBF4, [0x064A, 0x0654, 0x06C8]), (0xFBF5, 0xFBF5, [0x064A, 0x0654, 0x06C8]),
   (0xFBF6, 0xFBF6, [0x064A, 0x0654, 0x06D0]), (0xFBF7, 0xFBF7, [0x064A, 0x0654, 0x06D0]),
   (0xFBF8, 0xFBF8, [0x064A, 0x0654, 0x06D0]), (0xFBF9, 0xFBF9, [0x064A, 0x0654, 0x0649]),
   (0xFBFA, 0xFBFA, [0x064A, 0x0654, 0x0649]), (0xFBFB, 0xFBFB, [0x064A, 0x0654, 0x0649]),
   (0xFBFC, 0xFBFC, [0x06CC]), (0xFBFD, 0xFBFD, [0x06CC]), (0xFBFE, 0xFBFE, [0x06CC]),
   (0xFBFF, 0xFBFF, [0x06CC]), (0xFC00, 0xFC00, [0x064A, 0x0654, 0x062C]),
   (0xFC01, 0xFC01, [0x064A, 0x0654, 0x062D]), (0xFC02, 0xFC02, [0x064A, 0x0654, 0x0645]),
   (0xFC03, 0xFC03, [0x064A, 0x0654, 0x0649]), (0xFC04, 0xFC04, [0x064A, 0x0654, 0x064A]),
   (0xFC05, 0xFC05, [0x0628, 0x062C]), (0xFC06, 0xFC06, [0x0628, 0x062D]),
   (0xFC07, 0xFC07, [0x0628, 0x062E]), (0xFC08, 0xFC08, [0x0628, 0x0645]),
   (0xFC09, 0xFC09, [0x0628, 0x0649]), (0xFC0A, 0xFC0A, [0x0628, 0x064A]),
   (0xFC0B, 0xFC0B, [0x062A, 0x062C]), (0xFC0C, 0xFC0C, [0x062A, 0x062D]),
   (0xFC0D, 0xFC0D, [0x062A, 0x062E]), (0xFC0E, 0xFC0E, [0x062A, 0x0645]),
   (0xFC0F, 0xFC0F, [0x062A, 0x0649]), (0xFC10, 0xFC10, [0x062A, 0x064A]),
   (0xFC11, 0xFC11, [0x062B, 0x062C]), (0xFC12, 0xFC12, [0x062B, 0x0645]),
   (0xFC13, 0xFC13, [0x062B, 0x0649]), (0xFC14, 0xFC14, [0x062B, 0x064A]),
   (0xFC15, 0xFC15, [0x062C, 0x062D]), (0xFC16, 0xFC16, [0x062C, 0x0645]),
   (0xFC17, 0xFC17, [0x062D, 0x062C]), (0xFC18, 0xFC18, [0x062D, 0x0645]),
   (0xFC19, 0xFC19, [0x062E, 0x062C]), (0xFC1A, 0xFC1A, [0x062E, 0x062D]),
   (0xFC1B, 0xFC1B, [0x062E, 0x0645]), (0xFC1C, 0xFC1C, [0x0633, 0x062C]),
   (0xFC1D, 0xFC1D, [0x0633, 0x062D]), (0xFC1E, 0xFC1E, [0x0633, 0x062E]),
   (0xFC1F, 0xFC1F, [0x0633, 0x0645]), (0xFC20, 0xFC20, [0x0635, 0x062D]),
   (0xFC21, 0xFC21, [0x0635, 0x0645]), (0xFC22, 0xFC22, [0x0636, 0x062C])]

/-- Decompositions from U+FC23 to U+FCFB. -/
def decomposeFormB : List (Nat × Nat × List Nat) :=
  [(0xFC23, 0xFC23, [0x0636, 0x062D]), (0xFC24, 0xFC24, [0x0636, 0x062E]),
   (0xFC25, 0xFC25, [0x0636, 0x0645]), (0xFC26, 0xFC26, [0x0637, 0x062D]),
   (0xFC27, 0xFC28, [0x0637, 0x0645]), (0xFC29, 0xFC29, [0x0639, 0x062C]),
   (0xFC2A, 0xFC2A, [0x0639, 0x0645]), (0xFC2B, 0xFC2B, [0x063A, 0x062C]),
   (0xFC2C, 0xFC2C, [0x063A, 0x0645]), (0xFC2D, 0xFC2D, [0x0641, 0x062C]),
   (0xFC2E, 0xFC2E, [0x0641, 0x062D]), (0xFC2F, 0xFC2F, [0x0641, 0x062E]),
   (0xFC30, 0xFC30, [0x0641, 0x0645]), (0xFC31, 0xFC31, [0x0641, 0x0649]),
   (0xFC32, 0xFC32, [0x0641, 0x064A]), (0xFC33, 0xFC33, [0x0642, 0x062D]),
   (0xFC34, 0xFC34, [0x0642, 0x0645]), (0xFC35, 0xFC35, [0x0642, 0x0649]),
   (0xFC36, 0xFC36, [0x0642, 0x064A]), (0xFC37, 0xFC37, [0x0643, 0x0627]),
   (0xFC38, 0xFC38, [0x0643, 0x062C]), (0xFC39, 0xFC39, [0x0643, 0x062D]),
   (0xFC3A, 0xFC3A, [0x0643, 0x062E]), (0xFC3B, 0xFC3B, [0x0643, 0x0644]),
   (0xFC3C, 0xFC3C, [0x0643, 0x0645]), (0xFC3D, 0xFC3D, [0x0643, 0x0649]),
   (0xFC3E, 0xFC3E, [0x0643, 0x064A]), (0xFC3F, 0xFC3F, [0x0644, 0x062C]),
   (0xFC40, 0xFC40, [0x0644, 0x062D]), (0xFC41, 0xFC41, [0x0644, 0x062E]),
   (0xFC42, 0xFC42, [0x0644, 0x0645]), (0xFC43, 0xFC43, [0x0644, 0x0649]),
   (0xFC44, 0xFC44, [0x0644, 0x064A]), (0xFC45, 0xFC45, [0x0645, 0x062C]),
   (0xFC46, 0xFC46, [0x0645, 0x062D]), (0xFC47, 0xFC47, [0x0645, 0x062E]),
   (0xFC48, 0xFC48, [0x0645, 0x0645]), (0xFC49, 0xFC49, [0x0645, 0x0649]),
   (0xFC4A, 0xFC4A, [0x0645, 0x064A]), (0xFC4B, 0xFC4B, [0x0646, 0x062C]),
   (0xFC4C, 0xFC4C, [0x0646, 0x062D]), (0xFC4D, 0xFC4D, [0x0646, 0x062E]),
   (0xFC4E, 0xFC4E, [0x0646, 0x0645]), (0xFC4F, 0xFC4F, [0x0646, 0x0649]),
   (0xFC50, 0xFC50, [0x0646, 0x064A]), (0xFC51, 0xFC51, [0x0647, 0x062C]),
   (0xFC52, 0xFC52, [0x0647, 0x0645]), (0xFC53, 0xFC53, [0x0647, 0x0649]),
   (0xFC54, 0xFC54, [0x0647, 0x064A]), (0xFC55, 0xFC55, [0x064A, 0x062C]),
   (0xFC56, 0xFC56, [0x064A, 0x062D]), (0xFC57, 0xFC57, [0x064A, 0x062E]),
   (0xFC58, 0xFC58, [0x064A, 0x0645]), (0xFC59, 0xFC59, [0x064A, 0x0649]),
   (0xFC5A, 0xFC5A, [0x064A, 0x064A]), (0xFC5B, 0xFC5C, [0x0630, 0x0670]),
   (0xFC5D, 0xFC5D, [0x0649, 0x0670]), (0xFC5E, 0xFC5E, [0x0020, 0x064C, 0x0651]),
   (0xFC5F, 0xFC5F, [0x0020, 0x064D, 0x0651]), (0xFC60, 0xFC60, [0x0020, 0x064E, 0x0651]),
   (0xFC61, 0xFC61, [0x0020, 0x064F, 0x0651]), (0xFC62, 0xFC62, [0x0020, 0x0650, 0x0651]),
   (0xFC63, 0xFC63, [0x0020, 0x0651, 0x0670]), (0xFC64, 0xFC64, [0x064A, 0x0654, 0x0631]),
   (0xFC65, 0xFC65, [0x064A, 0x0654, 0x0632]), (0xFC66, 0xFC66, [0x064A, 0x0654, 0x0645]),
   (0xFC67, 0xFC67, [0x064A, 0x0654, 0x0646]), (0xFC68, 0xFC68, [0x064A, 0x0654, 0x0649]),
   (0xFC69, 0xFC69, [0x064A, 0x0654, 0x064A]), (0xFC6A, 0xFC6A, [0x0628, 0x0631]),
   (0xFC6B, 0xFC6B, [0x0628, 0x0632]), (0xFC6C, 0xFC6C, [0x0628, 0x0645]),
   (0xFC6D, 0xFC6D, [0x0628, 0x0646]), (0xFC6E, 0xFC6E, [0x0628, 0x0649]),
   (0xFC6F, 0xFC6F, [0x0628, 0x064A]), (0xFC70, 0xFC70, [0x062A, 0x0631]),
   (0xFC71, 0xFC71, [0x062A, 0x0632]), (0xFC72, 0xFC72, [0x062A, 0x0645]),
   (0xFC73, 0xFC73, [0x062A, 0x0646]), (0xFC74, 0xFC74, [0x062A, 0x0649]),
   (0xFC75, 0xFC75, [0x062A, 0x064A]), (0xFC76, 0xFC76, [0x062B, 0x0631]),
   (0xFC77, 0xFC77, [0x062B, 0x0632]), (0xFC78, 0xFC78, [0x062B, 0x0645]),
   (0xFC79, 0xFC79, [0x062B, 0x0646]), (0xFC7A, 0xFC7A, [0x062B, 0x0649]),
   (0xFC7B, 0xFC7B, [0x062B, 0x064A]), (0xFC7C, 0xFC7C, [0x0641, 0x0649]),
   (0xFC7D, 0xFC7D, [0x0641, 0x064A]), (0xFC7E, 0xFC7E, [0x0642, 0x0649]),
   (0xFC7F, 0xFC7F, [0x0642, 0x064A]), (0xFC80, 0xFC80, [0x0643, 0x0627]),
   (0xFC81, 0xFC81, [0x0643, 0x0644]), (0xFC82, 0xFC82, [0x0643, 0x0645]),
   (0xFC83, 0xFC83, [0x0643, 0x0649]), (0xFC84, 0xFC84, [0x0643, 0x064A]),
   (0xFC85, 0xFC85, [0x0644, 0x0645]), (0xFC86, 0xFC86, [0x0644, 0x0649]),
   (0xFC87, 0xFC87, [0x0644, 0x064A]), (0xFC88, 0xFC88, [0x0645, 0x0627]),
   (0xFC89, 0xFC89, [0x0645, 0x0645]), (0xFC8A, 0xFC8A, [0x0646, 0x0631]),
   (0xFC8B, 0xFC8B, [0x0646, 0x0632]), (0xFC8C, 0xFC8C, [0x0646, 0x0645]),
   (0xFC8D, 0xFC8D, [0x0646, 0x0646]), (0xFC8E, 0xFC8E, [0x0646, 0x0649]),
   (0xFC8F, 0xFC8F, [0x0646, 0x064A]), (0xFC90, 0xFC90, [0x0649, 0x0670]),
   (0xFC91, 0xFC91, [0x064A, 0x0631]), (0xFC92, 0xFC92, [0x064A, 0x0632]),
   (0xFC93, 0xFC93, [0x064A, 0x0645]), (0xFC94, 0xFC94, [0x064A, 0x0646]),
   (0xFC95, 0xFC95, [0x064A, 0x0649]), (0xFC96, 0xFC96, [0x064A, 0x064A]),
   (0xFC97, 0xFC97, [0x064A, 0x0654, 0x062C]), (0xFC98, 0xFC98, [0x064A, 0x0654, 0x062D]),
   (0xFC99, 0xFC99, [0x064A, 0x0654, 0x062E]), (0xFC9A, 0xFC9A, [0x064A, 0x0654, 0x0645]),
   (0xFC9B, 0xFC9B, [0x064A, 0x0654, 0x0647]), (0xFC9C, 0xFC9C, [0x0628, 0x062C]),
   (0xFC9D, 0xFC9D, [0x0628, 0x062D]), (0xFC9E, 0xFC9E, [0x0628, 0x062E]),
   (0xFC9F, 0xFC9F, [0x0628, 0x0645]), (0xFCA0, 0xFCA0, [0x0628, 0x0647]),
   (0xFCA1, 0xFCA1, [0x062A, 0x062C]), (0xFCA2, 0xFCA2, [0x062A, 0x062D]),
   (0xFCA3, 0xFCA3, [0x062A, 0x062E]), (0xFCA4, 0xFCA4, [0x062A, 0x0645]),
   (0xFCA5, 0xFCA5, [0x062A, 0x0647]), (0xFCA6, 0xFCA6, [0x062B, 0x0645]),
   (0xFCA7, 0xFCA7, [0x062C, 0x062D]), (0xFCA8, 0xFCA8, [0x062C, 0x0645]),
   (0xFCA9, 0xFCA9, [0x062D, 0x062C]), (0xFCAA, 0xFCAA, [0x062D, 0x0645]),
   (0xFCAB, 0xFCAB, [0x062E, 0x062C]), (0xFCAC, 0xFCAC, [0x062E, 0x0645]),
   (0xFCAD, 0xFCAD, [0x0633, 0x062C]), (0xFCAE, 0xFCAE, [0x0633, 0x062D]),
   (0xFCAF, 0xFCAF, [0x0633, 0x062E]), (0xFCB0, 0xFCB0, [0x0633, 0x0645]),
   (0xFCB1, 0xFCB1, [0x0635, 0x062D]), (0xFCB2, 0xFCB2, [0x0635, 0x062E]),
   (0xFCB3, 0xFCB3, [0x0635, 0x0645]), (0xFCB4, 0xFCB4, [0x0636, 0x062C]),
   (0xFCB5, 0xFCB5, [0x0636, 0x062D]), (0xFCB6, 0xFCB6, [0x0636, 0x062E]),
   (0xFCB7, 0xFCB7, [0x0636, 0x0645]), (0xFCB8, 0xFCB8, [0x0637, 0x062D]),
   (0xFCB9, 0xFCB9, [0x0638, 0x0645]), (0xFCBA, 0xFCBA, [0x0639, 0x062C]),
   (0xFCBB, 0xFCBB, [0x0639, 0x0645]), (0xFCBC, 0xFCBC, [0x063A, 0x062C]),
   (0xFCBD, 0xFCBD, [0x063A, 0x0645]), (0xFCBE, 0xFCBE, [0x0641, 0x062C]),
   (0xFCBF, 0xFCBF, [0x0641, 0x062D]), (0xFCC0, 0xFCC0, [0x0641, 0x062E]),
   (0xFCC1, 0xFCC1, [0x0641, 0x0645]), (0xFCC2, 0xFCC2, [0x0642, 0x062D]),
   (0xFCC3, 0xFCC3, [0x0642, 0x0645]), (0xFCC4, 0xFCC4, [0x0643, 0x062C]),
   (0xFCC5, 0xFCC5, [0x0643, 0x062D]), (0xFCC6, 0xFCC6, [0x0643, 0x062E]),
   (0xFCC7, 0xFCC7, [0x0643, 0x0644]), (0xFCC8, 0xFCC8, [0x0643, 0x0645]),
   (0xFCC9, 0xFCC9, [0x0644, 0x062C]), (0xFCCA, 0xFCCA, [0x0644, 0x062D]),
   (0xFCCB, 0xFCCB, [0x0644, 0x062E]), (0xFCCC, 0xFCCC, [0x0644, 0x0645]),
   (0xFCCD, 0xFCCD, [0x0644, 0x0647]), (0xFCCE, 0xFCCE, [0x0645, 0x062C]),
   (0xFCCF, 0xFCCF, [0x0645, 0x062D]), (0xFCD0, 0xFCD0, [0x0645, 0x062E]),
   (0xFCD1, 0xFCD1, [0x0645, 0x0645]), (0xFCD2, 0xFCD2, [0x0646, 0x062C]),
   (0xFCD3, 0xFCD3, [0x0646, 0x062D]), (0xFCD4, 0xFCD4, [0x0646, 0x062E]),
   (0xFCD5, 0xFCD5, [0x0646, 0x0645]), (0xFCD6, 0xFCD6, [0x0646, 0x0647]),
   (0xFCD7, 0xFCD7, [0x0647, 0x062C]), (0xFCD8, 0xFCD8, [0x0647, 0x0645]),
   (0xFCD9, 0xFCD9, [0x0647, 0x0670]), (0xFCDA, 0xFCDA, [0x064A, 0x062C]),
   (0xFCDB, 0xFCDB, [0x064A, 0x062D]), (0xFCDC, 0xFCDC, [0x064A, 0x062E]),
   (0xFCDD, 0xFCDD, [0x064A, 0x0645]), (0xFCDE, 0xFCDE, [0x064A, 0x0647]),
   (0xFCDF, 0xFCDF, [0x064A, 0x0654, 0x0645]), (0xFCE0, 0xFCE0, [0x064A, 0x0654, 0x0647]),
   (0xFCE1, 0xFCE1, [0x0628, 0x0645]), (0xFCE2, 0xFCE2, [0x0628, 0x0647]),
   (0xFCE3, 0xFCE3, [0x062A, 0x0645]), (0xFCE4, 0xFCE4, [0x062A, 0x0647]),
   (0xFCE5, 0xFCE5, [0x062B, 0x0645]), (0xFCE6, 0xFCE6, [0x062B, 0x0647]),
   (0xFCE7, 0xFCE7, [0x0633, 0x0645]), (0xFCE8, 0xFCE8, [0x0633, 0x0647]),
   (0xFCE9, 0xFCE9, [0x0634, 0x0645]), (0xFCEA, 0xFCEA, [0x0634, 0x0647]),
   (0xFCEB, 0xFCEB, [0x0643, 0x0644]), (0xFCEC, 0xFCED, [0x0643, 0x0645]),
   (0xFCEE, 0xFCEE, [0x0646, 0x0645]), (0xFCEF, 0xFCEF, [0x0646, 0x0647]),
   (0xFCF0, 0xFCF0, [0x064A, 0x0645]), (0xFCF1, 0xFCF1, [0x064A, 0x0647]),
   (0xFCF2, 0xFCF2, [0x0640, 0x064E, 0x0651]), (0xFCF3, 0xFCF3, [0x0640, 0x064F, 0x0651]),
   (0xFCF4, 0xFCF4, [0x0640, 0x0650, 0x0651]), (0xFCF5, 0xFCF5, [0x0637, 0x0649]),
   (0xFCF6, 0xFCF6, [0x0637, 0x064A]), (0xFCF7, 0xFCF7, [0x0639, 0x0649]),
   (0xFCF8, 0xFCF8, [0x0639, 0x064A]), (0xFCF9, 0xFCF9, [0x063A, 0x0649]),
   (0xFCFA, 0xFCFA, [0x063A, 0x064A]), (0xFCFB, 0xFCFB, [0x0633, 0x0649])]

/-- Decompositions from U+FCFC to U+FE47. -/
def decomposeFormC : List (Nat × Nat × List Nat) :=
  [(0xFCFC, 0xFCFC, [0x0633, 0x064A]), (0xFCFD, 0xFCFD, [0x0634, 0x0649]),
   (0xFCFE, 0xFCFE, [0x0634, 0x064A]), (0xFCFF, 0xFCFF, [0x062D, 0x0649]),
   (0xFD00, 0xFD00, [0x062D, 0x064A]), (0xFD01, 0xFD01, [0x062C, 0x0649]),
   (0xFD02, 0xFD02, [0x062C, 0x064A]), (0xFD03, 0xFD03, [0x062E, 0x0649]),
   (0xFD04, 0xFD04, [0x062E, 0x064A]), (0xFD05, 0xFD05, [0x0635, 0x0649]),
   (0xFD06, 0xFD06, [0x0635, 0x064A]), (0xFD07, 0xFD07, [0x0636, 0x0649]),
   (0xFD08, 0xFD08, [0x0636, 0x064A]), (0xFD09, 0xFD09, [0x0634, 0x062C]),
   (0xFD0A, 0xFD0A, [0x0634, 0x062D]), (0xFD0B, 0xFD0B, [0x0634, 0x062E]),
   (0xFD0C, 0xFD0C, [0x0634, 0x0645]), (0xFD0D, 0xFD0D, [0x0634, 0x0631]),
   (0xFD0E, 0xFD0E, [0x0633, 0x0631]), (0xFD0F, 0xFD10, [0x0635, 0x0631]),
   (0xFD11, 0xFD11, [0x0637, 0x0649]), (0xFD12, 0xFD12, [0x0637, 0x064A]),
   (0xFD13, 0xFD13, [0x0639, 0x0649]), (0xFD14, 0xFD14, [0x0639, 0x064A]),
   (0xFD15, 0xFD15, [0x063A, 0x0649]), (0xFD16, 0xFD16, [0x063A, 0x064A]),
   (0xFD17, 0xFD17, [0x0633, 0x0649]), (0xFD18, 0xFD18, [0x0633, 0x064A]),
   (0xFD19, 0xFD19, [0x0634, 0x0649]), (0xFD1A, 0xFD1A, [0x0634, 0x064A]),
   (0xFD1B, 0xFD1B, [0x062D, 0x0649]), (0xFD1C, 0xFD1C, [0x062D, 0x064A]),
   (0xFD1D, 0xFD1D, [0x062C, 0x0649]), (0xFD1E, 0xFD1E, [0x062C, 0x064A]),
   (0xFD1F, 0xFD1F, [0x062E, 0x0649]), (0xFD20, 0xFD20, [0x062E, 0x064A]),
   (0xFD21, 0xFD21, [0x0635, 0x0649]), (0xFD22, 0xFD22, [0x0635, 0x064A]),
   (0xFD23, 0xFD23, [0x0636, 0x0649]), (0xFD24, 0xFD24, [0x0636, 0x064A]),
   (0xFD25, 0xFD25, [0x0634, 0x062C]), (0xFD26, 0xFD26, [0x0634, 0x062D]),
   (0xFD27, 0xFD27, [0x0634, 0x062E]), (0xFD28, 0xFD28, [0x0634, 0x0645]),
   (0xFD29, 0xFD29, [0x0634, 0x0631]), (0xFD2A, 0xFD2A, [0x0633, 0x0631]),
   (0xFD2B, 0xFD2C, [0x0635, 0x0631]), (0xFD2D, 0xFD2D, [0x0634, 0x062C]),
   (0xFD2E, 0xFD2E, [0x0634, 0x062D]), (0xFD2F, 0xFD2F, [0x0634, 0x062E]),
   (0xFD30, 0xFD30, [0x0634, 0x0645]), (0xFD31, 0xFD32, [0x0633, 0x0647]),
   (0xFD33, 0xFD33, [0x0637, 0x0645]), (0xFD34, 0xFD34, [0x0633, 0x062C]),
   (0xFD35, 0xFD35, [0x0633, 0x062D]), (0xFD36, 0xFD36, [0x0633, 0x062E]),
   (0xFD37, 0xFD37, [0x0634, 0x062C]), (0xFD38, 0xFD38, [0x0634, 0x062D]),
   (0xFD39, 0xFD39, [0x0634, 0x062E]), (0xFD3A, 0xFD3B, [0x0637, 0x0645]),
   (0xFD3C, 0xFD3C, [0x0627, 0x064B]), (0xFD3D, 0xFD3D, [0x0627, 0x064B]),
   (0xFD50, 0xFD50, [0x062A, 0x062C, 0x0645]), (0xFD51, 0xFD51, [0x062A, 0x062D, 0x062C]),
   (0xFD52, 0xFD52, [0x062A, 0x062D, 0x062C]), (0xFD53, 0xFD53, [0x062A, 0x062D, 0x0645]),
   (0xFD54, 0xFD54, [0x062A, 0x062E, 0x0645]), (0xFD55, 0xFD55, [0x062A, 0x0645, 0x062C]),
   (0xFD56, 0xFD56, [0x062A, 0x0645, 0x062D]), (0xFD57, 0xFD57, [0x062A, 0x0645, 0x062E]),
   (0xFD58, 0xFD58, [0x062C, 0x0645, 0x062D]), (0xFD59, 0xFD59, [0x062C, 0x0645, 0x062D]),
   (0xFD5A, 0xFD5A, [0x062D, 0x0645, 0x064A]), (0xFD5B, 0xFD5B, [0x062D, 0x0645, 0x0649]),
   (0xFD5C, 0xFD5C, [0x0633, 0x062D, 0x062C]), (0xFD5D, 0xFD5D, [0x0633, 0x062C, 0x062D]),
   (0xFD5E, 0xFD5E, [0x0633, 0x062C, 0x0649]), (0xFD5F, 0xFD5F, [0x0633, 0x0645, 0x062D]),
   (0xFD60, 0xFD60, [0x0633, 0x0645, 0x062D]), (0xFD61, 0xFD61, [0x0633, 0x0645, 0x062C]),
   (0xFD62, 0xFD62, [0x0633, 0x0645, 0x0645]), (0xFD63, 0xFD63, [0x0633, 0x0645, 0x0645]),
   (0xFD64, 0xFD64, [0x0635, 0x062D, 0x062D]), (0xFD65, 0xFD65, [0x0635, 0x062D, 0x062D]),
   (0xFD66, 0xFD66, [0x0635, 0x0645, 0x0645]), (0xFD67, 0xFD67, [0x0634, 0x062D, 0x0645]),
   (0xFD68, 0xFD68, [0x0634, 0x062D, 0x0645]), (0xFD69, 0xFD69, [0x0634, 0x062C, 0x064A]),
   (0xFD6A, 0xFD6A, [0x0634, 0x0645, 0x062E]), (0xFD6B, 0xFD6B, [0x0634, 0x0645, 0x062E]),
   (0xFD6C, 0xFD6C, [0x0634, 0x0645, 0x0645]), (0xFD6D, 0xFD6D, [0x0634, 0x0645, 0x0645]),
   (0xFD6E, 0xFD6E, [0x0636, 0x062D, 0x0649]), (0xFD6F, 0xFD6F, [0x0636, 0x062E, 0x0645]),
   (0xFD70, 0xFD70, [0x0636, 0x062E, 0x0645]), (0xFD71, 0xFD71, [0x0637, 0x0645, 0x062D]),
   (0xFD72, 0xFD72, [0x0637, 0x0645, 0x062D]), (0xFD73, 0xFD73, [0x0637, 0x0645, 0x0645]),
   (0xFD74, 0xFD74, [0x0637, 0x0645, 0x064A]), (0xFD75, 0xFD75, [0x0639, 0x062C, 0x0645]),
   (0xFD76, 0xFD76, [0x0639, 0x0645, 0x0645]), (0xFD77, 0xFD77, [0x0639, 0x0645, 0x0645]),
   (0xFD78, 0xFD78, [0x0639, 0x0645, 0x0649]), (0xFD79, 0xFD79, [0x063A, 0x0645, 0x0645]),
   (0xFD7A, 0xFD7A, [0x063A, 0x0645, 0x064A]), (0xFD7B, 0xFD7B, [0x063A, 0x0645, 0x0649]),
   (0xFD7C, 0xFD7C, [0x0641, 0x062E, 0x0645]), (0xFD7D, 0xFD7D, [0x0641, 0x062E, 0x0645]),
   (0xFD7E, 0xFD7E, [0x0642, 0x0645, 0x062D]), (0xFD7F, 0xFD7F, [0x0642, 0x0645, 0x0645]),
   (0xFD80, 0xFD80, [0x0644, 0x062D, 0x0645]), (0xFD81, 0xFD81, [0x0644, 0x062D, 0x064A]),
   (0xFD82, 0xFD82, [0x0644, 0x062D, 0x0649]), (0xFD83, 0xFD83, [0x0644, 0x062C, 0x062C]),
   (0xFD84, 0xFD84, [0x0644, 0x062C, 0x062C]), (0xFD85, 0xFD85, [0x0644, 0x062E, 0x0645]),
   (0xFD86, 0xFD86, [0x0644, 0x062E, 0x0645]), (0xFD87, 0xFD87, [0x0644, 0x0645, 0x062D]),
   (0xFD88, 0xFD88, [0x0644, 0x0645, 0x062D]), (0xFD89, 0xFD89, [0x0645, 0x062D, 0x062C]),
   (0xFD8A, 0xFD8A, [0x0645, 0x062D, 0x0645]), (0xFD8B, 0xFD8B, [0x0645, 0x062D, 0x064A]),
   (0xFD8C, 0xFD8C, [0x0645, 0x062C, 0x062D]), (0xFD8D, 0xFD8D, [0x0645, 0x062C, 0x0645]),
   (0xFD8E, 0xFD8E, [0x0645, 0x062E, 0x062C]), (0xFD8F, 0xFD8F, [0x0645, 0x062E, 0x0645]),
   (0xFD92, 0xFD92, [0x0645, 0x062C, 0x062E]), (0xFD93, 0xFD93, [0x0647, 0x0645, 0x062C]),
   (0xFD94, 0xFD94, [0x0647, 0x0645, 0x0645]), (0xFD95, 0xFD95, [0x0646, 0x062D, 0x0645]),
   (0xFD96, 0xFD96, [0x0646, 0x062D, 0x0649]), (0xFD97, 0xFD97, [0x0646, 0x062C, 0x0645]),
   (0xFD98, 0xFD98, [0x0646, 0x062C, 0x0645]), (0xFD99, 0xFD99, [0x0646, 0x062C, 0x0649]),
   (0xFD9A, 0xFD9A, [0x0646, 0x0645, 0x064A]), (0xFD9B, 0xFD9B, [0x0646, 0x0645, 0x0649]),
   (0xFD9C, 0xFD9C, [0x064A, 0x0645, 0x0645]), (0xFD9D, 0xFD9D, [0x064A, 0x0645, 0x0645]),
   (0xFD9E, 0xFD9E, [0x0628, 0x062E, 0x064A]), (0xFD9F, 0xFD9F, [0x062A, 0x062C, 0x064A]),
   (0xFDA0, 0xFDA0, [0x062A, 0x062C, 0x0649]), (0xFDA1, 0xFDA1, [0x062A, 0x062E, 0x064A]),
   (0xFDA2, 0xFDA2, [0x062A, 0x062E, 0x0649]), (0xFDA3, 0xFDA3, [0x062A, 0x0645, 0x064A]),
   (0xFDA4, 0xFDA4, [0x062A, 0x0645, 0x0649]), (0xFDA5, 0xFDA5, [0x062C, 0x0645, 0x064A]),
   (0xFDA6, 0xFDA6, [0x062C, 0x062D, 0x0649]), (0xFDA7, 0xFDA7, [0x062C, 0x0645, 0x0649]),
   (0xFDA8, 0xFDA8, [0x0633, 0x062E, 0x0649]), (0xFDA9, 0xFDA9, [0x0635, 0x062D, 0x064A]),
   (0xFDAA, 0xFDAA, [0x0634, 0x062D, 0x064A]), (0xFDAB, 0xFDAB, [0x0636, 0x062D, 0x064A]),
   (0xFDAC, 0xFDAC, [0x0644, 0x062C, 0x064A]), (0xFDAD, 0xFDAD, [0x0644, 0x0645, 0x064A]),
   (0xFDAE, 0xFDAE, [0x064A, 0x062D, 0x064A]), (0xFDAF, 0xFDAF, [0x064A, 0x062C, 0x064A]),
   (0xFDB0, 0xFDB0, [0x064A, 0x0645, 0x064A]), (0xFDB1, 0xFDB1, [0x0645, 0x0645, 0x064A]),
   (0xFDB2, 0xFDB2, [0x0642, 0x0645, 0x064A]), (0xFDB3, 0xFDB3, [0x0646, 0x062D, 0x064A]),
   (0xFDB4, 0xFDB4, [0x0642, 0x0645, 0x062D]), (0xFDB5, 0xFDB5, [0x0644, 0x062D, 0x0645]),
   (0xFDB6, 0xFDB6, [0x0639, 0x0645, 0x064A]), (0xFDB7, 0xFDB7, [0x0643, 0x0645, 0x064A]),
   (0xFDB8, 0xFDB8, [0x0646, 0x062C, 0x062D]), (0xFDB9, 0xFDB9, [0x0645, 0x062E, 0x064A]),
   (0xFDBA, 0xFDBA, [0x0644, 0x062C, 0x0645]), (0xFDBB, 0xFDBB, [0x0643, 0x0645, 0x0645]),
   (0xFDBC, 0xFDBC, [0x0644, 0x062C, 0x0645]), (0xFDBD, 0xFDBD, [0x0646, 0x062C, 0x062D]),
   (0xFDBE, 0xFDBE, [0x062C, 0x062D, 0x064A]), (0xFDBF, 0xFDBF, [0x062D, 0x062C, 0x064A]),
   (0xFDC0, 0xFDC0, [0x0645, 0x062C, 0x064A]), (0xFDC1, 0xFDC1, [0x0641, 0x0645, 0x064A]),
   (0xFDC2, 0xFDC2, [0x0628, 0x062D, 0x064A]), (0xFDC3, 0xFDC3, [0x0643, 0x0645, 0x0645]),
   (0xFDC4, 0xFDC4, [0x0639, 0x062C, 0x0645]), (0xFDC5, 0xFDC5, [0x0635, 0x0645, 0x0645]),
   (0xFDC6, 0xFDC6, [0x0633, 0x062E, 0x064A]), (0xFDC7, 0xFDC7, [0x0646, 0x062C, 0x064A]),
   (0xFDF0, 0xFDF0, [0x0635, 0x0644, 0x06D2]), (0xFDF1, 0xFDF1, [0x0642, 0x0644, 0x06D2]),
   (0xFDF2, 0xFDF2, [0x0627, 0x0644, 0x0644, 0x0647]),
   (0xFDF3, 0xFDF3, [0x0627, 0x0643, 0x0628, 0x0631]),
   (0xFDF4, 0xFDF4, [0x0645, 0x062D, 0x0645, 0x062F]),
   (0xFDF5, 0xFDF5, [0x0635, 0x0644, 0x0639, 0x0645]),
   (0xFDF6, 0xFDF6, [0x0631, 0x0633, 0x0648, 0x0644]),
   (0xFDF7, 0xFDF7, [0x0639, 0x0644, 0x064A, 0x0647]),
   (0xFDF8, 0xFDF8, [0x0648, 0x0633, 0x0644, 0x0645]), (0xFDF9, 0xFDF9, [0x0635, 0x0644, 0x0649]),
   (0xFDFA, 0xFDFA, [0x0635, 0x0644, 0x0649, 0x0020, 0x0627, 0x0644, 0x0644, 0x0647, 0x0020, 0x0639, 0x0644, 0x064A, 0x0647, 0x0020, 0x0648, 0x0633, 0x0644, 0x0645]),
   (0xFDFB, 0xFDFB, [0x062C, 0x0644, 0x0020, 0x062C, 0x0644, 0x0627, 0x0644, 0x0647]),
   (0xFDFC, 0xFDFC, [0x0631, 0x06CC, 0x0627, 0x0644]), (0xFE10, 0xFE10, [0x002C]),
   (0xFE11, 0xFE12, [0x3001]), (0xFE13, 0xFE14, [0x003A]), (0xFE15, 0xFE15, [0x0021]),
   (0xFE16, 0xFE16, [0x003F]), (0xFE17, 0xFE18, [0x3016]),
   (0xFE19, 0xFE19, [0x002E, 0x002E, 0x002E]), (0xFE30, 0xFE30, [0x002E, 0x002E]),
   (0xFE31, 0xFE31, [0x2014]), (0xFE32, 0xFE32, [0x2013]), (0xFE33, 0xFE33, [0x005F]),
   (0xFE34, 0xFE34, [0x005F]), (0xFE35, 0xFE36, [0x0028]), (0xFE37, 0xFE37, [0x007B]),
   (0xFE38, 0xFE38, [0x007D]), (0xFE39, 0xFE3A, [0x3014]), (0xFE3B, 0xFE3C, [0x3010]),
   (0xFE3D, 0xFE3E, [0x300A]), (0xFE3F, 0xFE40, [0x3008]), (0xFE41, 0xFE44, [0x300C]),
   (0xFE47, 0xFE47, [0x005B])]

/-- Decompositions from U+FE48 to U+FFEE. -/
def decomposeFormD : List (Nat × Nat × List Nat) :=
  [(0xFE48, 0xFE48, [0x005D]), (0xFE49, 0xFE49, [0x0020, 0x0305]),
   (0xFE4A, 0xFE4A, [0x0020, 0x0305]), (0xFE4B, 0xFE4B, [0x0020, 0x0305]),
   (0xFE4C, 0xFE4C, [0x0020, 0x0305]), (0xFE4D, 0xFE4D, [0x005F]), (0xFE4E, 0xFE4E, [0x005F]),
   (0xFE4F, 0xFE4F, [0x005F]), (0xFE50, 0xFE50, [0x002C]), (0xFE51, 0xFE51, [0x3001]),
   (0xFE52, 0xFE52, [0x002E]), (0xFE54, 0xFE54, [0x003B]), (0xFE55, 0xFE55, [0x003A]),
   (0xFE56, 0xFE56, [0x003F]), (0xFE57, 0xFE57, [0x0021]), (0xFE58, 0xFE58, [0x2014]),
   (0xFE59, 0xFE5A, [0x0028]), (0xFE5B, 0xFE5B, [0x007B]), (0xFE5C, 0xFE5C, [0x007D]),
   (0xFE5D, 0xFE5E, [0x3014]), (0xFE5F, 0xFE5F, [0x0023]), (0xFE60, 0xFE60, [0x0026]),
   (0xFE61, 0xFE62, [0x002A]), (0xFE63, 0xFE63, [0x002D]), (0xFE64, 0xFE64, [0x003C]),
   (0xFE65, 0xFE65, [0x003E]), (0xFE66, 0xFE66, [0x003D]), (0xFE68, 0xFE68, [0x005C]),
   (0xFE69, 0xFE6A, [0x0024]), (0xFE6B, 0xFE6B, [0x0040]), (0xFE70, 0xFE70, [0x0020, 0x064B]),
   (0xFE71, 0xFE71, [0x0640, 0x064B]), (0xFE72, 0xFE72, [0x0020, 0x064C]),
   (0xFE74, 0xFE74, [0x0020, 0x064D]), (0xFE76, 0xFE76, [0x0020, 0x064E]),
   (0xFE77, 0xFE77, [0x0640, 0x064E]), (0xFE78, 0xFE78, [0x0020, 0x064F]),
   (0xFE79, 0xFE79, [0x0640, 0x064F]), (0xFE7A, 0xFE7A, [0x0020, 0x0650]),
   (0xFE7B, 0xFE7B, [0x0640, 0x0650]), (0xFE7C, 0xFE7C, [0x0020, 0x0651]),
   (0xFE7D, 0xFE7D, [0x0640, 0x0651]), (0xFE7E, 0xFE7E, [0x0020, 0x0652]),
   (0xFE7F, 0xFE7F, [0x0640, 0x0652]), (0xFE80, 0xFE80, [0x0621]),
   (0xFE81, 0xFE81, [0x0627, 0x0653]), (0xFE82, 0xFE82, [0x0627, 0x0653]),
   (0xFE83, 0xFE83, [0x0627, 0x0654]), (0xFE84, 0xFE84, [0x0627, 0x0654]),
   (0xFE85, 0xFE85, [0x0648, 0x0654]), (0xFE86, 0xFE86, [0x0648, 0x0654]),
   (0xFE87, 0xFE87, [0x0627, 0x0655]), (0xFE88, 0xFE88, [0x0627, 0x0655]),
   (0xFE89, 0xFE89, [0x064A, 0x0654]), (0xFE8A, 0xFE8A, [0x064A, 0x0654]),
   (0xFE8B, 0xFE8B, [0x064A, 0x0654]), (0xFE8C, 0xFE8C, [0x064A, 0x0654]),
   (0xFE8D, 0xFE8D, [0x0627]), (0xFE8E, 0xFE8F, [0x0627]), (0xFE90, 0xFE90, [0x0628]),
   (0xFE91, 0xFE91, [0x0628]), (0xFE92, 0xFE93, [0x0628]), (0xFE94, 0xFE95, [0x0629]),
   (0xFE96, 0xFE96, [0x062A]), (0xFE97, 0xFE97, [0x062A]), (0xFE98, 0xFE99, [0x062A]),
   (0xFE9A, 0xFE9A, [0x062B]), (0xFE9B, 0xFE9B, [0x062B]), (0xFE9C, 0xFE9D, [0x062B]),
   (0xFE9E, 0xFE9E, [0x062C]), (0xFE9F, 0xFE9F, [0x062C]), (0xFEA0, 0xFEA1, [0x062C]),
   (0xFEA2, 0xFEA2, [0x062D]), (0xFEA3, 0xFEA3, [0x062D]), (0xFEA4, 0xFEA5, [0x062D]),
   (0xFEA6, 0xFEA6, [0x062E]), (0xFEA7, 0xFEA7, [0x062E]), (0xFEA8, 0xFEA9, [0x062E]),
   (0xFEAA, 0xFEAB, [0x062F]), (0xFEAC, 0xFEAD, [0x0630]), (0xFEAE, 0xFEAF, [0x0631]),
   (0xFEB0, 0xFEB1, [0x0632]), (0xFEB2, 0xFEB2, [0x0633]), (0xFEB3, 0xFEB3, [0x0633]),
   (0xFEB4, 0xFEB5, [0x0633]), (0xFEB6, 0xFEB6, [0x0634]), (0xFEB7, 0xFEB7, [0x0634]),
   (0xFEB8, 0xFEB9, [0x0634]), (0xFEBA, 0xFEBA, [0x0635]), (0xFEBB, 0xFEBB, [0x0635]),
   (0xFEBC, 0xFEBD, [0x0635]), (0xFEBE, 0xFEBE, [0x0636]), (0xFEBF, 0xFEBF, [0x0636]),
   (0xFEC0, 0xFEC1, [0x0636]), (0xFEC2, 0xFEC2, [0x0637]), (0xFEC3, 0xFEC3, [0x0637]),
   (0xFEC4, 0xFEC5, [0x0637]), (0xFEC6, 0xFEC6, [0x0638]), (0xFEC7, 0xFEC7, [0x0638]),
   (0xFEC8, 0xFEC9, [0x0638]), (0xFECA, 0xFECA, [0x0639]), (0xFECB, 0xFECB, [0x0639]),
   (0xFECC, 0xFECD, [0x0639]), (0xFECE, 0xFECE, [0x063A]), (0xFECF, 0xFECF, [0x063A]),
   (0xFED0, 0xFED0, [0x063A]), (0xFED1, 0xFED1, [0x0641]), (0xFED2, 0xFED2, [0x0641]),
   (0xFED3, 0xFED3, [0x0641]), (0xFED4, 0xFED5, [0x0641]), (0xFED6, 0xFED6, [0x0642]),
   (0xFED7, 0xFED7, [0x0642]), (0xFED8, 0xFED9, [0x0642]), (0xFEDA, 0xFEDA, [0x0643]),
   (0xFEDB, 0xFEDB, [0x0643]), (0xFEDC, 0xFEDD, [0x0643]), (0xFEDE, 0xFEDE, [0x0644]),
   (0xFEDF, 0xFEDF, [0x0644]), (0xFEE0, 0xFEE1, [0x0644]), (0xFEE2, 0xFEE2, [0x0645]),
   (0xFEE3, 0xFEE3, [0x0645]), (0xFEE4, 0xFEE5, [0x0645]), (0xFEE6, 0xFEE6, [0x0646]),
   (0xFEE7, 0xFEE7, [0x0646]), (0xFEE8, 0xFEE9, [0x0646]), (0xFEEA, 0xFEEA, [0x0647]),
   (0xFEEB, 0xFEEB, [0x0647]), (0xFEEC, 0xFEED, [0x0647]), (0xFEEE, 0xFEEF, [0x0648]),
   (0xFEF0, 0xFEF1, [0x0649]), (0xFEF2, 0xFEF2, [0x064A]), (0xFEF3, 0xFEF3, [0x064A]),
   (0xFEF4, 0xFEF4, [0x064A]), (0xFEF5, 0xFEF5, [0x0644, 0x0627, 0x0653]),
   (0xFEF6, 0xFEF6, [0x0644, 0x0627, 0x0653]), (0xFEF7, 0xFEF7, [0x0644, 0x0627, 0x0654]),
   (0xFEF8, 0xFEF8, [0x0644, 0x0627, 0x0654]), (0xFEF9, 0xFEF9, [0x0644, 0x0627, 0x0655]),
   (0xFEFA, 0xFEFA, [0x0644, 0x0627, 0x0655]), (0xFEFB, 0xFEFB, [0x0644, 0x0627]),
   (0xFEFC, 0xFEFC, [0x0644, 0x0627]), (0xFF01, 0xFF5E, [0x0021]), (0xFF5F, 0xFF60, [0x2985]),
   (0xFF61, 0xFF61, [0x3002]), (0xFF62, 0xFF63, [0x300C]), (0xFF64, 0xFF64, [0x3001]),
   (0xFF65, 0xFF65, [0x30FB]), (0xFF66, 0xFF66, [0x30F2]), (0xFF67, 0xFF67, [0x30A1]),
   (0xFF68, 0xFF68, [0x30A3]), (0xFF69, 0xFF69, [0x30A5]), (0xFF6A, 0xFF6A, [0x30A7]),
   (0xFF6B, 0xFF6B, [0x30A9]), (0xFF6C, 0xFF6C, [0x30E3]), (0xFF6D, 0xFF6D, [0x30E5]),
   (0xFF6E, 0xFF6E, [0x30E7]), (0xFF6F, 0xFF6F, [0x30C3]), (0xFF70, 0xFF70, [0x30FC]),
   (0xFF71, 0xFF71, [0x30A2]), (0xFF72, 0xFF72, [0x30A4]), (0xFF73, 0xFF73, [0x30A6]),
   (0xFF74, 0xFF74, [0x30A8]), (0xFF75, 0xFF76, [0x30AA]), (0xFF77, 0xFF77, [0x30AD]),
   (0xFF78, 0xFF78, [0x30AF]), (0xFF79, 0xFF79, [0x30B1]), (0xFF7A, 0xFF7A, [0x30B3]),
   (0xFF7B, 0xFF7B, [0x30B5]), (0xFF7C, 0xFF7C, [0x30B7]), (0xFF7D, 0xFF7D, [0x30B9]),
   (0xFF7E, 0xFF7E, [0x30BB]), (0xFF7F, 0xFF7F, [0x30BD]), (0xFF80, 0xFF80, [0x30BF]),
   (0xFF81, 0xFF81, [0x30C1]), (0xFF82, 0xFF82, [0x30C4]), (0xFF83, 0xFF83, [0x30C6]),
   (0xFF84, 0xFF84, [0x30C8]), (0xFF85, 0xFF8A, [0x30CA]), (0xFF8B, 0xFF8B, [0x30D2]),
   (0xFF8C, 0xFF8C, [0x30D5]), (0xFF8D, 0xFF8D, [0x30D8]), (0xFF8E, 0xFF8E, [0x30DB]),
   (0xFF8F, 0xFF93, [0x30DE]), (0xFF94, 0xFF94, [0x30E4]), (0xFF95, 0xFF95, [0x30E6]),
   (0xFF96, 0xFF9B, [0x30E8]), (0xFF9C, 0xFF9C, [0x30EF]), (0xFF9D, 0xFF9D, [0x30F3]),
   (0xFF9E, 0xFF9F, [0x3099]), (0xFFA0, 0xFFA0, [0x1160]), (0xFFA1, 0xFFA2, [0x1100]),
   (0xFFA3, 0xFFA3, [0x11AA]), (0xFFA4, 0xFFA4, [0x1102]), (0xFFA5, 0xFFA6, [0x11AC]),
   (0xFFA7, 0xFFA9, [0x1103]), (0xFFAA, 0xFFAF, [0x11B0]), (0xFFB0, 0xFFB0, [0x111A]),
   (0xFFB1, 0xFFB3, [0x1106]), (0xFFB4, 0xFFB4, [0x1121]), (0xFFB5, 0xFFBE, [0x1109]),
   (0xFFC2, 0xFFC7, [0x1161]), (0xFFCA, 0xFFCF, [0x1167]), (0xFFD2, 0xFFD7, [0x116D]),
   (0xFFDA, 0xFFDC, [0x1173]), (0xFFE0, 0xFFE1, [0x00A2]), (0xFFE2, 0xFFE2, [0x00AC]),
   (0xFFE3, 0xFFE3, [0x0020, 0x0304]), (0xFFE4, 0xFFE4, [0x00A6]), (0xFFE5, 0xFFE5, [0x00A5]),
   (0xFFE6, 0xFFE6, [0x20A9]), (0xFFE8, 0xFFE8, [0x2502]), (0xFFE9, 0xFFEC, [0x2190]),
   (0xFFED, 0xFFED, [0x25A0]), (0xFFEE, 0xFFEE, [0x25CB])]

/-- The rows of this module in ascending order. -/
def decomposeForm : List (Nat × Nat × List Nat) :=
  decomposeFormA ++ decomposeFormB ++ decomposeFormC ++ decomposeFormD

end CorpusSearch.Text.Table
