-- Full compatibility decompositions (Unicode 14.0) of compatibility ideographs, U+F900 to U+FAFF.
-- A row `(first, last, parts)` sends `first` to `parts`; a later code point of the row counts its
-- distance from `first` on to the first part.
namespace CorpusSearch.Text.Table

/-- Decompositions from U+F900 to U+F9E5. -/
def decomposeIdeographA : List (Nat × Nat × List Nat) :=
  [(0xF900, 0xF900, [0x8C48]), (0xF901, 0xF901, [0x66F4]), (0xF902, 0xF902, [0x8ECA]),
   (0xF903, 0xF903, [0x8CC8]), (0xF904, 0xF904, [0x6ED1]), (0xF905, 0xF905, [0x4E32]),
   (0xF906, 0xF906, [0x53E5]), (0xF907, 0xF907, [0x9F9C]), (0xF908, 0xF908, [0x9F9C]),
   (0xF909, 0xF909, [0x5951]), (0xF90A, 0xF90A, [0x91D1]), (0xF90B, 0xF90B, [0x5587]),
   (0xF90C, 0xF90C, [0x5948]), (0xF90D, 0xF90D, [0x61F6]), (0xF90E, 0xF90E, [0x7669]),
   (0xF90F, 0xF90F, [0x7F85]), (0xF910, 0xF910, [0x863F]), (0xF911, 0xF911, [0x87BA]),
   (0xF912, 0xF912, [0x88F8]), (0xF913, 0xF913, [0x908F]), (0xF914, 0xF914, [0x6A02]),
   (0xF915, 0xF915, [0x6D1B]), (0xF916, 0xF916, [0x70D9]), (0xF917, 0xF917, [0x73DE]),
   (0xF918, 0xF918, [0x843D]), (0xF919, 0xF919, [0x916A]), (0xF91A, 0xF91A, [0x99F1]),
   (0xF91B, 0xF91B, [0x4E82]), (0xF91C, 0xF91C, [0x5375]), (0xF91D, 0xF91D, [0x6B04]),
   (0xF91E, 0xF91E, [0x721B]), (0xF91F, 0xF91F, [0x862D]), (0xF920, 0xF920, [0x9E1E]),
   (0xF921, 0xF921, [0x5D50]), (0xF922, 0xF922, [0x6FEB]), (0xF923, 0xF923, [0x85CD]),
   (0xF924, 0xF924, [0x8964]), (0xF925, 0xF925, [0x62C9]), (0xF926, 0xF926, [0x81D8]),
   (0xF927, 0xF927, [0x881F]), (0xF928, 0xF928, [0x5ECA]), (0xF929, 0xF929, [0x6717]),
   (0xF92A, 0xF92A, [0x6D6A]), (0xF92B, 0xF92B, [0x72FC]), (0xF92C, 0xF92C, [0x90CE]),
   (0xF92D, 0xF92D, [0x4F86]), (0xF92E, 0xF92E, [0x51B7]), (0xF92F, 0xF92F, [0x52DE]),
   (0xF930, 0xF930, [0x64C4]), (0xF931, 0xF931, [0x6AD3]), (0xF932, 0xF932, [0x7210]),
   (0xF933, 0xF933, [0x76E7]), (0xF934, 0xF934, [0x8001]), (0xF935, 0xF935, [0x8606]),
   (0xF936, 0xF936, [0x865C]), (0xF937, 0xF937, [0x8DEF]), (0xF938, 0xF938, [0x9732]),
   (0xF939, 0xF939, [0x9B6F]), (0xF93A, 0xF93A, [0x9DFA]), (0xF93B, 0xF93B, [0x788C]),
   (0xF93C, 0xF93C, [0x797F]), (0xF93D, 0xF93D, [0x7DA0]), (0xF93E, 0xF93E, [0x83C9]),
   (0xF93F, 0xF93F, [0x9304]), (0xF940, 0xF940, [0x9E7F]), (0xF941, 0xF941, [0x8AD6]),
   (0xF942, 0xF942, [0x58DF]), (0xF943, 0xF943, [0x5F04]), (0xF944, 0xF944, [0x7C60]),
   (0xF945, 0xF945, [0x807E]), (0xF946, 0xF946, [0x7262]), (0xF947, 0xF947, [0x78CA]),
   (0xF948, 0xF948, [0x8CC2]), (0xF949, 0xF949, [0x96F7]), (0xF94A, 0xF94A, [0x58D8]),
   (0xF94B, 0xF94B, [0x5C62]), (0xF94C, 0xF94C, [0x6A13]), (0xF94D, 0xF94D, [0x6DDA]),
   (0xF94E, 0xF94E, [0x6F0F]), (0xF94F, 0xF94F, [0x7D2F]), (0xF950, 0xF950, [0x7E37]),
   (0xF951, 0xF951, [0x964B]), (0xF952, 0xF952, [0x52D2]), (0xF953, 0xF953, [0x808B]),
   (0xF954, 0xF954, [0x51DC]), (0xF955, 0xF955, [0x51CC]), (0xF956, 0xF956, [0x7A1C]),
   (0xF957, 0xF957, [0x7DBE]), (0xF958, 0xF958, [0x83F1]), (0xF959, 0xF959, [0x9675]),
   (0xF95A, 0xF95A, [0x8B80]), (0xF95B, 0xF95B, [0x62CF]), (0xF95C, 0xF95C, [0x6A02]),
   (0xF95D, 0xF95D, [0x8AFE]), (0xF95E, 0xF95E, [0x4E39]), (0xF95F, 0xF95F, [0x5BE7]),
   (0xF960, 0xF960, [0x6012]), (0xF961, 0xF961, [0x7387]), (0xF962, 0xF962, [0x7570]),
   (0xF963, 0xF963, [0x5317]), (0xF964, 0xF964, [0x78FB]), (0xF965, 0xF965, [0x4FBF]),
   (0xF966, 0xF966, [0x5FA9]), (0xF967, 0xF967, [0x4E0D]), (0xF968, 0xF968, [0x6CCC]),
   (0xF969, 0xF969, [0x6578]), (0xF96A, 0xF96A, [0x7D22]), (0xF96B, 0xF96B, [0x53C3]),
   (0xF96C, 0xF96C, [0x585E]), (0xF96D, 0xF96D, [0x7701]), (0xF96E, 0xF96E, [0x8449]),
   (0xF96F, 0xF96F, [0x8AAA]), (0xF970, 0xF970, [0x6BBA]), (0xF971, 0xF971, [0x8FB0]),
   (0xF972, 0xF972, [0x6C88]), (0xF973, 0xF973, [0x62FE]), (0xF974, 0xF974, [0x82E5]),
   (0xF975, 0xF975, [0x63A0]), (0xF976, 0xF976, [0x7565]), (0xF977, 0xF977, [0x4EAE]),
   (0xF978, 0xF978, [0x5169]), (0xF979, 0xF979, [0x51C9]), (0xF97A, 0xF97A, [0x6881]),
   (0xF97B, 0xF97B, [0x7CE7]), (0xF97C, 0xF97C, [0x826F]), (0xF97D, 0xF97D, [0x8AD2]),
   (0xF97E, 0xF97E, [0x91CF]), (0xF97F, 0xF97F, [0x52F5]), (0xF980, 0xF980, [0x5442]),
   (0xF981, 0xF981, [0x5973]), (0xF982, 0xF982, [0x5EEC]), (0xF983, 0xF983, [0x65C5]),
   (0xF984, 0xF984, [0x6FFE]), (0xF985, 0xF985, [0x792A]), (0xF986, 0xF986, [0x95AD]),
   (0xF987, 0xF987, [0x9A6A]), (0xF988, 0xF988, [0x9E97]), (0xF989, 0xF989, [0x9ECE]),
   (0xF98A, 0xF98A, [0x529B]), (0xF98B, 0xF98B, [0x66C6]), (0xF98C, 0xF98C, [0x6B77]),
   (0xF98D, 0xF98D, [0x8F62]), (0xF98E, 0xF98E, [0x5E74]), (0xF98F, 0xF98F, [0x6190]),
   (0xF990, 0xF990, [0x6200]), (0xF991, 0xF991, [0x649A]), (0xF992, 0xF992, [0x6F23]),
   (0xF993, 0xF993, [0x7149]), (0xF994, 0xF994, [0x7489]), (0xF995, 0xF995, [0x79CA]),
   (0xF996, 0xF996, [0x7DF4]), (0xF997, 0xF997, [0x806F]), (0xF998, 0xF998, [0x8F26]),
   (0xF999, 0xF999, [0x84EE]), (0xF99A, 0xF99A, [0x9023]), (0xF99B, 0xF99B, [0x934A]),
   (0xF99C, 0xF99C, [0x5217]), (0xF99D, 0xF99D, [0x52A3]), (0xF99E, 0xF99E, [0x54BD]),
   (0xF99F, 0xF99F, [0x70C8]), (0xF9A0, 0xF9A0, [0x88C2]), (0xF9A1, 0xF9A1, [0x8AAA]),
   (0xF9A2, 0xF9A2, [0x5EC9]), (0xF9A3, 0xF9A3, [0x5FF5]), (0xF9A4, 0xF9A4, [0x637B]),
   (0xF9A5, 0xF9A5, [0x6BAE]), (0xF9A6, 0xF9A6, [0x7C3E]), (0xF9A7, 0xF9A7, [0x7375]),
   (0xF9A8, 0xF9A8, [0x4EE4]), (0xF9A9, 0xF9A9, [0x56F9]), (0xF9AA, 0xF9AA, [0x5BE7]),
   (0xF9AB, 0xF9AB, [0x5DBA]), (0xF9AC, 0xF9AC, [0x601C]), (0xF9AD, 0xF9AD, [0x73B2]),
   (0xF9AE, 0xF9AE, [0x7469]), (0xF9AF, 0xF9AF, [0x7F9A]), (0xF9B0, 0xF9B0, [0x8046]),
   (0xF9B1, 0xF9B1, [0x9234]), (0xF9B2, 0xF9B2, [0x96F6]), (0xF9B3, 0xF9B3, [0x9748]),
   (0xF9B4, 0xF9B4, [0x9818]), (0xF9B5, 0xF9B5, [0x4F8B]), (0xF9B6, 0xF9B6, [0x79AE]),
   (0xF9B7, 0xF9B7, [0x91B4]), (0xF9B8, 0xF9B8, [0x96B8]), (0xF9B9, 0xF9B9, [0x60E1]),
   (0xF9BA, 0xF9BA, [0x4E86]), (0xF9BB, 0xF9BB, [0x50DA]), (0xF9BC, 0xF9BC, [0x5BEE]),
   (0xF9BD, 0xF9BD, [0x5C3F]), (0xF9BE, 0xF9BE, [0x6599]), (0xF9BF, 0xF9BF, [0x6A02]),
   (0xF9C0, 0xF9C0, [0x71CE]), (0xF9C1, 0xF9C1, [0x7642]), (0xF9C2, 0xF9C2, [0x84FC]),
   (0xF9C3, 0xF9C3, [0x907C]), (0xF9C4, 0xF9C4, [0x9F8D]), (0xF9C5, 0xF9C5, [0x6688]),
   (0xF9C6, 0xF9C6, [0x962E]), (0xF9C7, 0xF9C7, [0x5289]), (0xF9C8, 0xF9C8, [0x677B]),
   (0xF9C9, 0xF9C9, [0x67F3]), (0xF9CA, 0xF9CA, [0x6D41]), (0xF9CB, 0xF9CB, [0x6E9C]),
   (0xF9CC, 0xF9CC, [0x7409]), (0xF9CD, 0xF9CD, [0x7559]), (0xF9CE, 0xF9CE, [0x786B]),
   (0xF9CF, 0xF9CF, [0x7D10]), (0xF9D0, 0xF9D0, [0x985E]), (0xF9D1, 0xF9D1, [0x516D]),
   (0xF9D2, 0xF9D2, [0x622E]), (0xF9D3, 0xF9D3, [0x9678]), (0xF9D4, 0xF9D4, [0x502B]),
   (0xF9D5, 0xF9D5, [0x5D19]), (0xF9D6, 0xF9D6, [0x6DEA]), (0xF9D7, 0xF9D7, [0x8F2A]),
   (0xF9D8, 0xF9D8, [0x5F8B]), (0xF9D9, 0xF9D9, [0x6144]), (0xF9DA, 0xF9DA, [0x6817]),
   (0xF9DB, 0xF9DB, [0x7387]), (0xF9DC, 0xF9DC, [0x9686]), (0xF9DD, 0xF9DD, [0x5229]),
   (0xF9DE, 0xF9DE, [0x540F]), (0xF9DF, 0xF9DF, [0x5C65]), (0xF9E0, 0xF9E0, [0x6613]),
   (0xF9E1, 0xF9E1, [0x674E]), (0xF9E2, 0xF9E2, [0x68A8]), (0xF9E3, 0xF9E3, [0x6CE5]),
   (0xF9E4, 0xF9E4, [0x7406]), (0xF9E5, 0xF9E5, [0x75E2])]

/-- Decompositions from U+F9E6 to U+FAD9. -/
def decomposeIdeographB : List (Nat × Nat × List Nat) :=
  [(0xF9E6, 0xF9E6, [0x7F79]), (0xF9E7, 0xF9E7, [0x88CF]), (0xF9E8, 0xF9E8, [0x88E1]),
   (0xF9E9, 0xF9E9, [0x91CC]), (0xF9EA, 0xF9EA, [0x96E2]), (0xF9EB, 0xF9EB, [0x533F]),
   (0xF9EC, 0xF9EC, [0x6EBA]), (0xF9ED, 0xF9ED, [0x541D]), (0xF9EE, 0xF9EE, [0x71D0]),
   (0xF9EF, 0xF9EF, [0x7498]), (0xF9F0, 0xF9F0, [0x85FA]), (0xF9F1, 0xF9F1, [0x96A3]),
   (0xF9F2, 0xF9F2, [0x9C57]), (0xF9F3, 0xF9F3, [0x9E9F]), (0xF9F4, 0xF9F4, [0x6797]),
   (0xF9F5, 0xF9F5, [0x6DCB]), (0xF9F6, 0xF9F6, [0x81E8]), (0xF9F7, 0xF9F7, [0x7ACB]),
   (0xF9F8, 0xF9F8, [0x7B20]), (0xF9F9, 0xF9F9, [0x7C92]), (0xF9FA, 0xF9FA, [0x72C0]),
   (0xF9FB, 0xF9FB, [0x7099]), (0xF9FC, 0xF9FC, [0x8B58]), (0xF9FD, 0xF9FD, [0x4EC0]),
   (0xF9FE, 0xF9FE, [0x8336]), (0xF9FF, 0xF9FF, [0x523A]), (0xFA00, 0xFA00, [0x5207]),
   (0xFA01, 0xFA01, [0x5EA6]), (0xFA02, 0xFA02, [0x62D3]), (0xFA03, 0xFA03, [0x7CD6]),
   (0xFA04, 0xFA04, [0x5B85]), (0xFA05, 0xFA05, [0x6D1E]), (0xFA06, 0xFA06, [0x66B4]),
   (0xFA07, 0xFA07, [0x8F3B]), (0xFA08, 0xFA08, [0x884C]), (0xFA09, 0xFA09, [0x964D]),
   (0xFA0A, 0xFA0A, [0x898B]), (0xFA0B, 0xFA0B, [0x5ED3]), (0xFA0C, 0xFA0C, [0x5140]),
   (0xFA0D, 0xFA0D, [0x55C0]), (0xFA10, 0xFA10, [0x585A]), (0xFA12, 0xFA12, [0x6674]),
   (0xFA15, 0xFA15, [0x51DE]), (0xFA16, 0xFA16, [0x732A]), (0xFA17, 0xFA17, [0x76CA]),
   (0xFA18, 0xFA18, [0x793C]), (0xFA19, 0xFA19, [0x795E]), (0xFA1A, 0xFA1A, [0x7965]),
   (0xFA1B, 0xFA1B, [0x798F]), (0xFA1C, 0xFA1C, [0x9756]), (0xFA1D, 0xFA1D, [0x7CBE]),
   (0xFA1E, 0xFA1E, [0x7FBD]), (0xFA20, 0xFA20, [0x8612]), (0xFA22, 0xFA22, [0x8AF8]),
   (0xFA25, 0xFA25, [0x9038]), (0xFA26, 0xFA26, [0x90FD]), (0xFA2A, 0xFA2A, [0x98EF]),
   (0xFA2B, 0xFA2B, [0x98FC]), (0xFA2C, 0xFA2C, [0x9928]), (0xFA2D, 0xFA2D, [0x9DB4]),
   (0xFA2E, 0xFA2E, [0x90DE]), (0xFA2F, 0xFA2F, [0x96B7]), (0xFA30, 0xFA30, [0x4FAE]),
   (0xFA31, 0xFA31, [0x50E7]), (0xFA32, 0xFA32, [0x514D]), (0xFA33, 0xFA33, [0x52C9]),
   (0xFA34, 0xFA34, [0x52E4]), (0xFA35, 0xFA35, [0x5351]), (0xFA36, 0xFA36, [0x559D]),
   (0xFA37, 0xFA37, [0x5606]), (0xFA38, 0xFA38, [0x5668]), (0xFA39, 0xFA39, [0x5840]),
   (0xFA3A, 0xFA3A, [0x58A8]), (0xFA3B, 0xFA3B, [0x5C64]), (0xFA3C, 0xFA3C, [0x5C6E]),
   (0xFA3D, 0xFA3D, [0x6094]), (0xFA3E, 0xFA3E, [0x6168]), (0xFA3F, 0xFA3F, [0x618E]),
   (0xFA40, 0xFA40, [0x61F2]), (0xFA41, 0xFA41, [0x654F]), (0xFA42, 0xFA42, [0x65E2]),
   (0xFA43, 0xFA43, [0x6691]), (0xFA44, 0xFA44, [0x6885]), (0xFA45, 0xFA45, [0x6D77]),
   (0xFA46, 0xFA46, [0x6E1A]), (0xFA47, 0xFA47, [0x6F22]), (0xFA48, 0xFA48, [0x716E]),
   (0xFA49, 0xFA49, [0x722B]), (0xFA4A, 0xFA4A, [0x7422]), (0xFA4B, 0xFA4B, [0x7891]),
   (0xFA4C, 0xFA4C, [0x793E]), (0xFA4D, 0xFA4D, [0x7949]), (0xFA4E, 0xFA4E, [0x7948]),
   (0xFA4F, 0xFA4F, [0x7950]), (0xFA50, 0xFA50, [0x7956]), (0xFA51, 0xFA51, [0x795D]),
   (0xFA52, 0xFA53, [0x798D]), (0xFA54, 0xFA54, [0x7A40]), (0xFA55, 0xFA55, [0x7A81]),
   (0xFA56, 0xFA56, [0x7BC0]), (0xFA57, 0xFA57, [0x7DF4]), (0xFA58, 0xFA58, [0x7E09]),
   (0xFA59, 0xFA59, [0x7E41]), (0xFA5A, 0xFA5A, [0x7F72]), (0xFA5B, 0xFA5B, [0x8005]),
   (0xFA5C, 0xFA5C, [0x81ED]), (0xFA5D, 0xFA5D, [0x8279]), (0xFA5E, 0xFA5E, [0x8279]),
   (0xFA5F, 0xFA5F, [0x8457]), (0xFA60, 0xFA60, [0x8910]), (0xFA61, 0xFA61, [0x8996]),
   (0xFA62, 0xFA62, [0x8B01]), (0xFA63, 0xFA63, [0x8B39]), (0xFA64, 0xFA64, [0x8CD3]),
   (0xFA65, 0xFA65, [0x8D08]), (0xFA66, 0xFA66, [0x8FB6]), (0xFA67, 0xFA67, [0x9038]),
   (0xFA68, 0xFA68, [0x96E3]), (0xFA69, 0xFA69, [0x97FF]), (0xFA6A, 0xFA6A, [0x983B]),
   (0xFA6B, 0xFA6B, [0x6075]), (0xFA6C, 0xFA6C, [0x242EE]), (0xFA6D, 0xFA6D, [0x8218]),
   (0xFA70, 0xFA70, [0x4E26]), (0xFA71, 0xFA71, [0x51B5]), (0xFA72, 0xFA72, [0x5168]),
   (0xFA73, 0xFA73, [0x4F80]), (0xFA74, 0xFA74, [0x5145]), (0xFA75, 0xFA75, [0x5180]),
   (0xFA76, 0xFA76, [0x52C7]), (0xFA77, 0xFA77, [0x52FA]), (0xFA78, 0xFA78, [0x559D]),
   (0xFA79, 0xFA79, [0x5555]), (0xFA7A, 0xFA7A, [0x5599]), (0xFA7B, 0xFA7B, [0x55E2]),
   (0xFA7C, 0xFA7C, [0x585A]), (0xFA7D, 0xFA7D, [0x58B3]), (0xFA7E, 0xFA7E, [0x5944]),
   (0xFA7F, 0xFA7F, [0x5954]), (0xFA80, 0xFA80, [0x5A62]), (0xFA81, 0xFA81, [0x5B28]),
   (0xFA82, 0xFA82, [0x5ED2]), (0xFA83, 0xFA83, [0x5ED9]), (0xFA84, 0xFA84, [0x5F69]),
   (0xFA85, 0xFA85, [0x5FAD]), (0xFA86, 0xFA86, [0x60D8]), (0xFA87, 0xFA87, [0x614E]),
   (0xFA88, 0xFA88, [0x6108]), (0xFA89, 0xFA89, [0x618E]), (0xFA8A, 0xFA8A, [0x6160]),
   (0xFA8B, 0xFA8B, [0x61F2]), (0xFA8C, 0xFA8C, [0x6234]), (0xFA8D, 0xFA8D, [0x63C4]),
   (0xFA8E, 0xFA8E, [0x641C]), (0xFA8F, 0xFA8F, [0x6452]), (0xFA90, 0xFA90, [0x6556]),
   (0xFA91, 0xFA91, [0x6674]), (0xFA92, 0xFA92, [0x6717]), (0xFA93, 0xFA93, [0x671B]),
   (0xFA94, 0xFA94, [0x6756]), (0xFA95, 0xFA95, [0x6B79]), (0xFA96, 0xFA96, [0x6BBA]),
   (0xFA97, 0xFA97, [0x6D41]), (0xFA98, 0xFA98, [0x6EDB]), (0xFA99, 0xFA99, [0x6ECB]),
   (0xFA9A, 0xFA9A, [0x6F22]), (0xFA9B, 0xFA9B, [0x701E]), (0xFA9C, 0xFA9C, [0x716E]),
   (0xFA9D, 0xFA9D, [0x77A7]), (0xFA9E, 0xFA9E, [0x7235]), (0xFA9F, 0xFA9F, [0x72AF]),
   (0xFAA0, 0xFAA0, [0x732A]), (0xFAA1, 0xFAA1, [0x7471]), (0xFAA2, 0xFAA2, [0x7506]),
   (0xFAA3, 0xFAA3, [0x753B]), (0xFAA4, 0xFAA4, [0x761D]), (0xFAA5, 0xFAA5, [0x761F]),
   (0xFAA6, 0xFAA6, [0x76CA]), (0xFAA7, 0xFAA7, [0x76DB]), (0xFAA8, 0xFAA8, [0x76F4]),
   (0xFAA9, 0xFAA9, [0x774A]), (0xFAAA, 0xFAAA, [0x7740]), (0xFAAB, 0xFAAB, [0x78CC]),
   (0xFAAC, 0xFAAC, [0x7AB1]), (0xFAAD, 0xFAAD, [0x7BC0]), (0xFAAE, 0xFAAE, [0x7C7B]),
   (0xFAAF, 0xFAAF, [0x7D5B]), (0xFAB0, 0xFAB0, [0x7DF4]), (0xFAB1, 0xFAB1, [0x7F3E]),
   (0xFAB2, 0xFAB2, [0x8005]), (0xFAB3, 0xFAB3, [0x8352]), (0xFAB4, 0xFAB4, [0x83EF]),
   (0xFAB5, 0xFAB5, [0x8779]), (0xFAB6, 0xFAB6, [0x8941]), (0xFAB7, 0xFAB7, [0x8986]),
   (0xFAB8, 0xFAB8, [0x8996]), (0xFAB9, 0xFAB9, [0x8ABF]), (0xFABA, 0xFABA, [0x8AF8]),
   (0xFABB, 0xFABB, [0x8ACB]), (0xFABC, 0xFABC, [0x8B01]), (0xFABD, 0xFABD, [0x8AFE]),
   (0xFABE, 0xFABE, [0x8AED]), (0xFABF, 0xFABF, [0x8B39]), (0xFAC0, 0xFAC0, [0x8B8A]),
   (0xFAC1, 0xFAC1, [0x8D08]), (0xFAC2, 0xFAC2, [0x8F38]), (0xFAC3, 0xFAC3, [0x9072]),
   (0xFAC4, 0xFAC4, [0x9199]), (0xFAC5, 0xFAC5, [0x9276]), (0xFAC6, 0xFAC6, [0x967C]),
   (0xFAC7, 0xFAC7, [0x96E3]), (0xFAC8, 0xFAC8, [0x9756]), (0xFAC9, 0xFAC9, [0x97DB]),
   (0xFACA, 0xFACA, [0x97FF]), (0xFACB, 0xFACB, [0x980B]), (0xFACC, 0xFACC, [0x983B]),
   (0xFACD, 0xFACD, [0x9B12]), (0xFACE, 0xFACE, [0x9F9C]), (0xFACF, 0xFACF, [0x2284A]),
   (0xFAD0, 0xFAD0, [0x22844]), (0xFAD1, 0xFAD1, [0x233D5]), (0xFAD2, 0xFAD2, [0x3B9D]),
   (0xFAD3, 0xFAD3, [0x4018]), (0xFAD4, 0xFAD4, [0x4039]), (0xFAD5, 0xFAD5, [0x25249]),
   (0xFAD6, 0xFAD6, [0x25CD0]), (0xFAD7, 0xFAD7, [0x27ED3]), (0xFAD8, 0xFAD8, [0x9F43]),
   (0xFAD9, 0xFAD9, [0x9F8E])]

/-- The rows of this module in ascending order. -/
def decomposeIdeograph : List (Nat × Nat × List Nat) :=
  decomposeIdeographA ++ decomposeIdeographB

end CorpusSearch.Text.Table
