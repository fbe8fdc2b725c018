import ApiReplay.Text.CharSet

/-!
# General categories of characters

Every code point has one general category of two letters. The table lists the runs of code points
of one category in order: the distance from the start of the previous run, in base 36, and the
category that the run has. The categories that share a first letter form a group of that name.

## Main definitions

* `Text.category?`: the characters of a category or of a group, by its short or long name.
-/

namespace ApiReplay.Text

/-- The runs of general categories. -/
def categoryTable : String :=
  String.join
    ["0CcwZs1Po3Sc1Po3Ps1Pe1Po1Sm1Po1Pd1Po2NdaPo2Sm3Po2LuqPs1Po1Pe1Sk1Pc1Sk1LlqPs1Sm1Pe1Sm1CcxZs",
      "1Po1Sc4So1Po1Sk1So1Lo1Pi1Sm1Cf1So1Sk1So1Sm1No2Sk1Ll1Po2Sk1No1Lo1Pf1No3Po1LunSm1Lu7LloSm1Ll",
      "8Lu1Ll1Lu1Ll1Lu1Ll1Lu1Ll1Lu1Ll1Lu1Ll1Lu1Ll1Lu1Ll1Lu1Ll1Lu1Ll1Lu1Ll1Lu1Ll1Lu1Ll1Lu1Ll1Lu1Ll",
      "1Lu1Ll1Lu1Ll1Lu1Ll1Lu1Ll1Lu1Ll1Lu1Ll1Lu1Ll1Lu1Ll1Lu1Ll1Lu1Ll1Lu1Ll1Lu1Ll1Lu1Ll2Lu1Ll1Lu1Ll",
      "1Lu1Ll1Lu1Ll1Lu1Ll1Lu1Ll1Lu1Ll1Lu1Ll2Lu1Ll1Lu1Ll1Lu1Ll1Lu1Ll1Lu1Ll1Lu1Ll1Lu1Ll1Lu1Ll1Lu1Ll",
      "1Lu1Ll1Lu1Ll1Lu1Ll1Lu1Ll1Lu1Ll1Lu1Ll1Lu1Ll1Lu1Ll1Lu1Ll1Lu1Ll1Lu1Ll1Lu1Ll1Lu1Ll1Lu1Ll1Lu2Ll",
      "1Lu1Ll1Lu1Ll3Lu2Ll1Lu1Ll1Lu2Ll1Lu3Ll2Lu4Ll1Lu2Ll1Lu3Ll3Lu2Ll1Lu2Ll1Lu1Ll1Lu1Ll1Lu2Ll1Lu1Ll",
      "2Lu1Ll1Lu2Ll1Lu3Ll1Lu1Ll1Lu2Ll2Lo1Lu1Ll3Lo4Lu1Lt1Ll1Lu1Lt1Ll1Lu1Lt1Ll1Lu1Ll1Lu1Ll1Lu1Ll1Lu",
      "1Ll1Lu1Ll1Lu1Ll1Lu1Ll1Lu1Ll2Lu1Ll1Lu1Ll1Lu1Ll1Lu1Ll1Lu1Ll1Lu1Ll1Lu1Ll1Lu1Ll1Lu1Ll2Lu1Lt1Ll",
      "1Lu1Ll1Lu3Ll1Lu1Ll1Lu1Ll1Lu1Ll1Lu1Ll1Lu1Ll1Lu1Ll1Lu1Ll1Lu1Ll1Lu1Ll1Lu1Ll1Lu1Ll1Lu1Ll1Lu1Ll",
      "1Lu1Ll1Lu1Ll1Lu1Ll1Lu1Ll1Lu1Ll1Lu1Ll1Lu1Ll1Lu1Ll1Lu1Ll1Lu1Ll1Lu1Ll1Lu1Ll1Lu1Ll1Lu1Ll1Lu1Ll",
      "1Lu1Ll7Lu2Ll1Lu2Ll2Lu1Ll1Lu4Ll1Lu1Ll1Lu1Ll1Lu1Ll1Lu1Ll1xLo1LlrLmiSk4LmcSkeLm5Sk7Lm1Sk1Lm1S",
      "khMn34Lu1Ll1Lu1Ll1Lm1Sk1Lu1Ll1Cn2Lm1Ll3Po1Lu1Cn4Sk2Lu1Po1Lu3Cn1Lu1Cn1Lu2Ll1LuhCn1Lu9LlzLu1",
      "Ll2Lu3Ll3Lu1Ll1Lu1Ll1Lu1Ll1Lu1Ll1Lu1Ll1Lu1Ll1Lu1Ll1Lu1Ll1Lu1Ll1Lu1Ll1Lu1Ll1Lu1Ll5Lu1Ll1Sm1",
      "Lu1Ll1Lu2Ll2Lu1fLl1cLu1Ll1Lu1Ll1Lu1Ll1Lu1Ll1Lu1Ll1Lu1Ll1Lu1Ll1Lu1Ll1Lu1Ll1Lu1Ll1Lu1Ll1Lu1L",
      "l1Lu1Ll1Lu1Ll1Lu1Ll1Lu1Ll1Lu1Ll1So1Mn5Me2Lu1Ll1Lu1Ll1Lu1Ll1Lu1Ll1Lu1Ll1Lu1Ll1Lu1Ll1Lu1Ll1L",
      "u1Ll1Lu1Ll1Lu1Ll1Lu1Ll1Lu1Ll1Lu1Ll1Lu1Ll1Lu1Ll1Lu1Ll1Lu1Ll1Lu1Ll1Lu1Ll1Lu1Ll1Lu1Ll1Lu1Ll1L",
      "u1Ll1Lu1Ll1Lu1Ll1Lu1Ll1Lu2Ll1Lu1Ll1Lu1Ll1Lu1Ll1Lu1Ll1Lu1Ll1Lu1Ll2Lu1Ll1Lu1Ll1Lu1Ll1Lu1Ll1L",
      "u1Ll1Lu1Ll1Lu1Ll1Lu1Ll1Lu1Ll1Lu1Ll1Lu1Ll1Lu1Ll1Lu1Ll1Lu1Ll1Lu1Ll1Lu1Ll1Lu1Ll1Lu1Ll1Lu1Ll1L",
      "u1Ll1Lu1Ll1Lu1Ll1Lu1Ll1Lu1Ll1Lu1Ll1Lu1Ll1Lu1Ll1Lu1Ll1Lu1Ll1Lu1Ll1Lu1Ll1Lu1Ll1Lu1Ll1Lu1Ll1L",
      "u1Ll1Lu1Ll1Lu1Ll1Lu1Ll1Lu1Ll1Lu1Ll1Lu1Ll1Lu1Ll1Lu1Ll1Lu1Ll1Lu1Ll1Lu1Ll1Lu1Ll1Lu1Ll1Cn1Lu12",
      "Cn2Lm1Po6Ll15Po1Pd1Cn2So2Sc1Cn1Mn19Pd1Mn1Po1Mn2Po1Mn2Po1Mn1Cn8LorCn4Lo4Po2CnbCf6Sm3Po2Sc1P",
      "o2So2MnbPo1Cf1Po3LowLm1LoaMnlNdaPo4Lo2Mn1Lo2rPo1Lo1Mn7Cf1So1Mn6Lm2Mn2So1Mn4Lo2NdaLo3So2Lo1",
      "PoeCn1Cf1Lo1Mn1LouMnrCn2Lo2hMnbLo1CneNdaLoxMn9Lm2So1Po3Lm1Cn2Mn1Sc2LomMn4Lm1Mn9Lm1Mn3Lm1Mn",
      "5Cn2PofCn1LopMn3Cn2Po1Cn1LobCn5LooSk1Lo6Cn1Cf2Cn6Mn8Lo15Lm1MnoCf1MnwMc1Lo1iMn1Mc1Mn1Lo1Mc3",
      "Mn8Mc4Mn1Mc2Lo1Mn7LoaMn2Po2NdaPo1Lm1LofMn1Mc2Cn1Lo8Cn2Lo2Cn2LomCn1Lo7Cn1Lo1Cn3Lo4Cn2Mn1Lo1",
      "Mc3Mn4Cn2Mc2Cn2Mc2Mn1Lo1Cn8Mc1Cn4Lo2Cn1Lo3Mn2Cn2NdaLo2Sc2No6So1Sc1Lo1Po1Mn1Cn2Mn2Mc1Cn1Lo6",
      "Cn4Lo2Cn2LomCn1Lo7Cn1Lo2Cn1Lo2Cn1Lo2Cn2Mn1Cn1Mc3Mn2Cn4Mn2Cn2Mn3Cn3Mn1Cn7Lo4Cn1Lo1Cn7NdaMn2",
      "Lo3Mn1Po1CnaMn2Mc1Cn1Lo9Cn1Lo3Cn1LomCn1Lo7Cn1Lo2Cn1Lo5Cn2Mn1Lo1Mc3Mn5Cn1Mn2Mc1Cn1Mc2Mn1Cn2",
      "Lo1CnfLo2Mn2Cn2NdaPo1Sc1Cn7Lo1Mn6Cn1Mn1Mc2Cn1Lo8Cn2Lo2Cn2LomCn1Lo7Cn1Lo2Cn1Lo5Cn2Mn1Lo1Mc1",
      "Mn1Mc1Mn4Cn2Mc2Cn2Mc2Mn1Cn7Mn2Mc1Cn4Lo2Cn1Lo3Mn2Cn2NdaSo1Lo1No6CnaMn1Lo1Cn1Lo6Cn3Lo3Cn1Lo4",
      "Cn3Lo2Cn1Lo1Cn1Lo2Cn3Lo2Cn3Lo3Cn3LocCn4Mc2Mn1Mc2Cn3Mc3Cn1Mc3Mn1Cn2Lo1Cn6Mc1CneNdaNo3So6Sc1",
      "So1Cn5Mn1Mc3Mn1Lo8Cn1Lo3Cn1LonCn1LogCn2Mn1Lo1Mn3Mc4Cn1Mn3Cn1Mn4Cn7Mn2Cn1Lo3Cn2Lo1Cn2Lo2Mn2",
      "Cn2NdaCn7Po1No7So1Lo1Mn1Mc2Po1Lo8Cn1Lo3Cn1LonCn1LoaCn1Lo5Cn2Mn1Lo1Mc1Mn1Mc5Cn1Mn1Mc2Cn1Mc2",
      "Mn2Cn7Mc2Cn6Lo2Cn1Lo2Mn2Cn2NdaCn1Lo2Mc1CncMn2Mc2Lo9Cn1Lo3Cn1Lo15Mn2Lo1Mc3Mn4Cn1Mc3Cn1Mc3Mn",
      "1Lo1So1Cn4Lo3Mc1No7Lo3Mn2Cn2NdaNo9So1Lo6Cn1Mn1Mc2Cn1LoiCn3LooCn1Lo9Cn1Lo1Cn2Lo7Cn3Mn1Cn4Mc",
      "3Mn3Cn1Mn1Cn1Mc8Cn6NdaCn2Mc2Po1CncLo1cMn1Lo2Mn7Cn4Sc1Lo6Lm1Mn8Po1NdaPo2Cn11Lo2Cn1Lo1Cn1Lo5",
      "Cn1LooCn1Lo1Cn1LoaMn1Lo2Mn9Lo1Cn2Lo5Cn1Lm1Cn1Mn7Cn1NdaCn2Lo4CnwLo1So3PofSo1Po1So3Mn2So6Nda",
      "NoaSo1Mn1So1Mn1So1Mn1Ps1Pe1Ps1Pe1Mc2Lo8Cn1Lo10Cn4MneMc1Mn5Po1Mn2Lo5MnbCn1Mn10Cn1So8Mn1So6C",
      "n1So2Po5So4Po2Cn11Lo17Mc2Mn4Mc1Mn6Mc1Mn2Mc2Mn2Lo1NdaPo6Lo6Mc2Mn2Lo4Mn3Lo1Mc3Lo2Mc7Lo3Mn4Lo",
      "dMn1Mc2Mn2Mc6Mn1Lo1Mc1NdaMc3Mn1So2Lu12Cn1Lu1Cn5Lu1Cn2Ll17Po1Lm1Ll3Lo95Cn1Lo4Cn2Lo7Cn1Lo1Cn",
      "1Lo4Cn2Lo15Cn1Lo4Cn2LoxCn1Lo4Cn2Lo7Cn1Lo1Cn1Lo4Cn2LofCn1Lo1lCn1Lo4Cn2Lo1vCn2Mn3Po9NokCn3Lo",
      "gSoaCn6Lu2eCn2Ll6Cn2Pd1Loh8So1Po1LohZs1LoqPs1Pe1Cn3Lo23Po3Nl3Lo8Cn7LoiMn3Mc1Cn9LojMn2Mc1Po",
      "2Cn9LoiMn2CncLodCn1Lo3Cn1Mn2CncLo1gMn2Mc1Mn7Mc8Mn1Mc2MnbPo3Lm1Po3Sc1Lo1Mn1Cn2NdaCn6NoaCn6P",
      "o6Pd1Po4Mn3Cf1Mn1NdaCn6LozLm1Lo1hCn7Lo5Mn2LoyMn1Lo1Cn5Lo1yCnaLovCn1Mn3Mc4Mn2Mc3Cn4Mc2Mn1Mc",
      "6Mn3Cn4So1Cn3Po2NdaLouCn2Lo5CnbLo18Cn4LoqCn6NdaNo1Cn3SoyLonMn2Mc2Mn1Cn2Po2Lo1hMc1Mn1Mc1Mn7",
      "Cn1Mn1Mc1Mn1Mc2Mn8Mc6MnaCn2Mn1NdaCn6NdaCn6Po7Lm1Po6Cn2MneMe1MngCn1dMn4Mc1Lo1bMn1Mc1Mn5Mc1M",
      "n1Mc5Mn1Mc2Lo8Cn3NdaPo7SoaMn9So9Po2Cn1Mn2Mc1LouMc1Mn4Mc2Mn2Mc1Mn3Lo2NdaLo18Mn1Mc1Mn2Mc3Mn1",
      "Mc1Mn3Mc2Cn8Po4Lo10Mc8Mn8Mc2Mn2Cn3Po5NdaCn3Lo3NdaLouLm6Po2Ll9Cn7Lu17Cn2Lu3Po8Cn8Mn3Po1MndM",
      "c1Mn7Lo4Mn1Lo6Mn1Lo2Mc1Mn2Lo1Cn5Ll18Lm1rLldLm1LlyLm11Mn1sLu1Ll1Lu1Ll1Lu1Ll1Lu1Ll1Lu1Ll1Lu1",
      "Ll1Lu1Ll1Lu1Ll1Lu1Ll1Lu1Ll1Lu1Ll1Lu1Ll1Lu1Ll1Lu1Ll1Lu1Ll1Lu1Ll1Lu1Ll1Lu1Ll1Lu1Ll1Lu1Ll1Lu1",
      "Ll1Lu1Ll1Lu1Ll1Lu1Ll1Lu1Ll1Lu1Ll1Lu1Ll1Lu1Ll1Lu1Ll1Lu1Ll1Lu1Ll1Lu1Ll1Lu1Ll1Lu1Ll1Lu1Ll1Lu1",
      "Ll1Lu1Ll1Lu1Ll1Lu1Ll1Lu1Ll1Lu1Ll1Lu1Ll1Lu1Ll1Lu1Ll1Lu1Ll1Lu1Ll1Lu1Ll1Lu1Ll1Lu1Ll1Lu1Ll1Lu1",
      "Ll1Lu1Ll1Lu1Ll1Lu1Ll1Lu1Ll1Lu1Ll1Lu1Ll1Lu1Ll1Lu1Ll1Lu1Ll1Lu1Ll1Lu1Ll1Lu1Ll1Lu1Ll1Lu1Ll1Lu1",
      "Ll1Lu1Ll1Lu1Ll1Lu1Ll1Lu1Ll1Lu1Ll1Lu1Ll1Lu1Ll1Lu1Ll1Lu1Ll9Lu1Ll1Lu1Ll1Lu1Ll1Lu1Ll1Lu1Ll1Lu1",
      "Ll1Lu1Ll1Lu1Ll1Lu1Ll1Lu1Ll1Lu1Ll1Lu1Ll1Lu1Ll1Lu1Ll1Lu1Ll1Lu1Ll1Lu1Ll1Lu1Ll1Lu1Ll1Lu1Ll1Lu1",
      "Ll1Lu1Ll1Lu1Ll1Lu1Ll1Lu1Ll1Lu1Ll1Lu1Ll1Lu1Ll1Lu1Ll1Lu1Ll1Lu1Ll1Lu1Ll1Lu1Ll1Lu1Ll1Lu1Ll1Lu1",
      "Ll1Lu1Ll1Lu1Ll1Lu1Ll1Lu1Ll1Lu1Ll1Lu1Ll1Lu1Ll1Lu1Ll1Lu1Ll1Lu1Ll1Lu1Ll1Lu1Ll1Lu1Ll9Lu8Ll6Cn2",
      "Lu6Cn2Ll8Lu8Ll8Lu8Ll6Cn2Lu6Cn2Ll8Cn1Lu1Cn1Lu1Cn1Lu1Cn1Lu1Ll8Lu8LleCn2Ll8Lt8Ll8Lt8Ll8Lt8Ll5",
      "Cn1Ll2Lu4Lt1Sk1Ll1Sk3Ll3Cn1Ll2Lu4Lt1Sk3Ll4Cn2Ll2Lu4Cn1Sk3Ll8Lu5Sk3Cn2Ll3Cn1Ll2Lu4Lt1Sk2Cn1",
      "ZsbCf5Pd6Po2Pi1Pf1Ps1Pi2Pf1Ps1Pi1Po8Zl1Zp1Cf5Zs1Po9Pi1Pf1Po4Pc2Po3Sm1Ps1Pe1PobSm1Po1Pc1Poa",
      "Zs1Cf5Cn1CfaNo1Lm1Cn2No6Sm3Ps1Pe1Lm1NoaSm3Ps1Pe1Cn1LmdCn3ScxCnfMndMe4Mn1Me3MncCnfSo2Lu1So4",
      "Lu1So2Ll1Lu3Ll2Lu3Ll1So1Lu1So2Sm1Lu5So6Lu1So1Lu1So1Lu1So1Lu4So1Ll1Lu4Ll1Lo4Ll1So2Ll2Lu2Sm5",
      "Lu1Ll4So1Sm1So2Ll1So1NogNlzLu1Ll1Nl4No1So2Cn4Sm5So5Sm2So4Sm1So2Sm1So2Sm1So7Sm1SovSm2So2Sm1",
      "So1Sm1SovSm7gSo8Ps1Pe1Ps1Pe1SokSm2So7Ps1Pe1So29Sm1SouSmpSo14Sm6So1xCnpSobCnlNo1oSo26NomSo5",
      "3Sm1So9Sm1So1iSm8So33Sm1So6wPs1Pe1Ps1Pe1Ps1Pe1Ps1Pe1Ps1Pe1Ps1Pe1Ps1Pe1NouSo18Sm5Ps1Pe1SmvP",
      "s1Pe1Ps1Pe1Ps1Pe1Ps1Pe1Ps1Pe1SmgSo74Sm3nPs1Pe1Ps1Pe1Ps1Pe1Ps1Pe1Ps1Pe1Ps1Pe1Ps1Pe1Ps1Pe1Ps",
      "1Pe1Ps1Pe1Ps1Pe1Sm1rPs1Pe1Ps1Pe1SmwPs1Pe1Sm76So1cSmlSo2Sm6So13Cn2SowCn1So2xLu1cLl1cLu1Ll1L",
      "u3Ll2Lu1Ll1Lu1Ll1Lu1Ll1Lu4Ll1Lu1Ll2Lu1Ll6Lm2Lu3Ll1Lu1Ll1Lu1Ll1Lu1Ll1Lu1Ll1Lu1Ll1Lu1Ll1Lu1L",
      "l1Lu1Ll1Lu1Ll1Lu1Ll1Lu1Ll1Lu1Ll1Lu1Ll1Lu1Ll1Lu1Ll1Lu1Ll1Lu1Ll1Lu1Ll1Lu1Ll1Lu1Ll1Lu1Ll1Lu1L",
      "l1Lu1Ll1Lu1Ll1Lu1Ll1Lu1Ll1Lu1Ll1Lu1Ll1Lu1Ll1Lu1Ll1Lu1Ll1Lu1Ll1Lu1Ll1Lu1Ll1Lu1Ll1Lu1Ll1Lu1L",
      "l1Lu1Ll1Lu1Ll1Lu1Ll1Lu1Ll1Lu1Ll1Lu1Ll1Lu1Ll1Lu1Ll1Lu1Ll1Lu1Ll1Lu1Ll1Lu1Ll2So6Lu1Ll1Lu1Ll1M",
      "n3Lu1Ll1Cn5Po4No1Po2Ll12Cn1Ll1Cn5Ll1Cn2Lo1kCn7Lm1Po1CneMn1LonCn9Lo7Cn1Lo7Cn1Lo7Cn1Lo7Cn1Lo",
      "7Cn1Lo7Cn1Lo7Cn1Lo7Cn1MnwPo2Pi1Pf1Pi1Pf1Po3Pi1Pf1Po1Pi1Pf1Po9Pd1Po2Pd1Po1Pi1Pf1Po2Pi1Pf1Ps",
      "1Pe1Ps1Pe1Ps1Pe1Ps1Pe1Po5Lm1PoaPd2Po4Pd1Po1Ps1PodSo2Po3Ps1Pe1Ps1Pe1Ps1Pe1Ps1Pe1Pd1CnySoqCn",
      "1So2hCncSo5yCnqSocCn4Zs1Po3So1Lm1Lo1Nl1Ps1Pe1Ps1Pe1Ps1Pe1Ps1Pe1Ps1Pe1So2Ps1Pe1Ps1Pe1Ps1Pe1",
      "Ps1Pe1Pd1Ps1Pe2So1Nl9Mn4Mc2Pd1Lm5So2Nl3Lm1Lo1Po1So2Cn1Lo2eCn2Mn2Sk2Lm2Lo1Pd1Lo2iPo1Lm3Lo1C",
      "n5Lo17Cn1Lo2mCn1So2No4SoaLowSo10CncLogSovCn1NoaSouNo8So1NofSowNoaSo13NofSo8wLo534So1sLog7p",
      "Lm1LovrCn3So1jCn9Lo14Lm6Po2Lo7gLm1Po3LogNdaLo2CnkLu1Ll1Lu1Ll1Lu1Ll1Lu1Ll1Lu1Ll1Lu1Ll1Lu1Ll",
      "1Lu1Ll1Lu1Ll1Lu1Ll1Lu1Ll1Lu1Ll1Lu1Ll1Lu1Ll1Lu1Ll1Lu1Ll1Lu1Ll1Lu1Ll1Lu1Ll1Lu1Ll1Lu1Ll1Lu1Ll",
      "1Lu1Ll1Lo1Mn1Me3Po1MnaPo1Lm1Lu1Ll1Lu1Ll1Lu1Ll1Lu1Ll1Lu1Ll1Lu1Ll1Lu1Ll1Lu1Ll1Lu1Ll1Lu1Ll1Lu",
      "1Ll1Lu1Ll1Lu1Ll1Lu1Ll1Lm2Mn2Lo1yNlaMn2Po6Cn8SknLm9Sk2Lu1Ll1Lu1Ll1Lu1Ll1Lu1Ll1Lu1Ll1Lu1Ll1L",
      "u1Ll3Lu1Ll1Lu1Ll1Lu1Ll1Lu1Ll1Lu1Ll1Lu1Ll1Lu1Ll1Lu1Ll1Lu1Ll1Lu1Ll1Lu1Ll1Lu1Ll1Lu1Ll1Lu1Ll1L",
      "u1Ll1Lu1Ll1Lu1Ll1Lu1Ll1Lu1Ll1Lu1Ll1Lu1Ll1Lu1Ll1Lu1Ll1Lu1Ll1Lu1Ll1Lu1Ll1Lu1Ll1Lu1Ll1Lu1Ll1L",
      "u1Ll1Lu1Ll1Lm1Ll8Lu1Ll1Lu1Ll1Lu2Ll1Lu1Ll1Lu1Ll1Lu1Ll1Lu1Ll1Lm1Sk2Lu1Ll1Lu1Ll1Lo1Lu1Ll1Lu1L",
      "l3Lu1Ll1Lu1Ll1Lu1Ll1Lu1Ll1Lu1Ll1Lu1Ll1Lu1Ll1Lu1Ll1Lu1Ll1Lu1Ll1Lu5Ll1Lu5Ll1Lu1Ll1Lu1Ll1Lu1L",
      "l1Lu1Ll1Lu1Ll1Lu1Ll1Lu1Ll1Lu4Ll1Lu1Ll1Cn5Lu1Ll1Cn1Ll1Cn1Ll1Lu1Ll1Lu1Ll1CnoLm3Lu1Ll1Lo1Lm2L",
      "l1Lo7Mn1Lo3Mn1Lo4Mn1LonMc2Mn2Mc1So4Mn1Cn3No6So2Sc1So1Cn6Lo1gPo4Cn8Mc2Lo1eMcgMn2Cn8Po2NdaCn",
      "6MniLo6Po3Lo1Po1Lo2Mn1NdaLosMn8Po2LonMnbMc2CnbPo1LotCn3Mn3Mc1Lo1bMn1Mc2Mn4Mc2Mn2Mc3PodCn1L",
      "m1NdaCn4Po2Lo5Mn1Lm1Lo9NdaLo5Cn1Lo15Mn6Mc2Mn2Mc2Mn2Cn9Lo3Mn1Lo8Mn1Mc1Cn2NdaCn2Po4LogLm1Lo6",
      "So3Lo1Mc1Mn1Mc1Lo1eMn1Lo1Mn3Lo2Mn2Lo5Mn2Lo1Mn1Lo1CnoLo2Lm1Po2LobMc1Mn2Mc2Po2Lo1Lm2Mc1Mn1Cn",
      "aLo6Cn2Lo6Cn2Lo6Cn9Lo7Cn1Lo7Cn1Ll17Sk1Lm4Ll9Lm1Sk2Cn4Ll28LozMc2Mn1Mc2Mn1Mc2Po1Mc1Mn1Cn2Nda",
      "Cn6Lo8mcCncLonCn4Lo1dCn4Cs1kwCo4xsLoa6Cn2Lo2yCn12Ll7CncLl5Cn5Lo1Mn1LoaSm1LodCn1Lo5Cn1Lo1Cn",
      "1Lo2Cn1Lo2Cn1Lo30SkhCngLoa3Pe1Ps1SogLo1sCn2Lo1iCn7So1CnwLocSc1So3MngPo7Ps1Pe1Po1Cn6MngPo1P",
      "d2Pc2Ps1Pe1Ps1Pe1Ps1Pe1Ps1Pe1Ps1Pe1Ps1Pe1Ps1Pe1Ps1Pe1Po2Ps1Pe1Po4Pc3Po3Cn1Po4Pd1Ps1Pe1Ps1P",
      "e1Ps1Pe1Po3Sm1Pd1Sm3Cn1Po1Sc1Po2Cn4Lo5Cn1Lo3rCn2Cf1Cn1Po3Sc1Po3Ps1Pe1Po1Sm1Po1Pd1Po2NdaPo2",
      "Sm3Po2LuqPs1Po1Pe1Sk1Pc1Sk1LlqPs1Sm1Pe1Sm1Ps1Pe1Po1Ps1Pe1Po2LoaLm1Lo19Lm2LovCn3Lo6Cn2Lo6Cn",
      "2Lo6Cn2Lo3Cn3Sc2Sm1Sk1So1Sc2Cn1So1Sm4So2CnaCf3So2Cn2LocCn1LoqCn1LojCn1Lo2Cn1LofCn2LoeCnyLo",
      "3fCn5Po3Cn4No19Cn3So9Nl1hNo4SohNo2So3Cn1SodCn3So1Cn1bSo19Mn1Cn3mLotCn3Lo1dCnfMn1NorCn4LowN",
      "o4Cn9LokNl1Lo8Nl1Cn5Lo12Mn5Cn5LouCn1Po1Lo10Cn4Lo8Po1Nl5Cn16Lu14Ll14Lo26Cn2NdaCn6Lu10Cn4Ll1",
      "0Cn4Lo14Cn8Lo1gCnbPo1LubCn1LufCn1Lu7Cn1Lu2Cn1LlbCn1LlfCn1Ll7Cn1Ll2Cn1vLo8nCn9LomCnaLo8CnoL",
      "m6Cn1Lm16Cn1Lm9Cn1xLo6Cn2Lo1Cn1Lo18Cn1Lo2Cn3Lo1Cn2LonCn1Po1No8LonSo2No7LovCn8No9Cn1cLojCn1",
      "Lo2Cn5No5LomNo6Cn3Po1LoqCn5Po1Cn1sLo1kCn4No2Lo2NogCn2No1aLo1Mn3Cn1Mn2Cn5Mn4Lo4Cn1Lo3Cn1Lot",
      "Cn2Mn3Cn4Mn1No9Cn7Po9Cn7LotNo2Po1LotNo3CnwLo8So1LosMn2Cn4No5Po7Cn9Lo1iCn3Po7LomCn2No8LojCn",
      "5No8LoiCn7Po4CncNo7Cn28Lo21Cn1jLu1fCndLl1fCn7No6Lo10Mn4Cn8NdaCn86NovCn1Lo16Cn1Mn2Pd1Cn2Lo2",
      "Cn23Mn3LotNoaLo1Cn8LomMnbNo4Po5CnmLoiMn4Po4Cn12LolNo7CnkLonCn9Mc1Mn1Mc1Lo1hMnfPo7Cn4NokNda",
      "Mn1Lo2Mn2Lo1Cn9Mn3Mc1Lo19Mc3Mn4Mc2Mn2Po2Cf1Po4Mn1CnaCf1Cn2LopCn7NdaCn6Mn3Lo10Mn5Mc1Mn8Cn1N",
      "daPo4Lo1Mc2Lo1Cn8LozMn1Po2Lo1Cn9Mn2Mc1Lo1cMc3Mn9Mc2Lo4Po4Mn4Po1Mc1Mn1NdaLo1Po1Lo1Po3Cn1Nok",
      "CnbLoiCn1LopMc3Mn3Mc2Mn1Mc1Mn2Po6Mn1Lo2Mn1Cn1qLo7Cn1Lo1Cn1Lo4Cn1LofCn1LoaPo1Cn6Lo1bMn1Mc3M",
      "n8Cn5NdaCn6Mn2Mc2Cn1Lo8Cn2Lo2Cn2LomCn1Lo7Cn1Lo2Cn1Lo5Cn1Mn2Lo1Mc2Mn1Mc4Cn2Mc2Cn2Mc3Cn2Lo1C",
      "n6Mc1Cn5Lo5Mc2Cn2Mn7Cn3Mn5Cn3vLo1hMc3Mn8Mc2Mn3Mc1Mn1Lo4Po5NdaPo2Cn1Po1Mn1Lo3CnuLo1cMc3Mn6M",
      "c1Mn1Mc4Mn2Mc1Mn2Lo2Po1Lo1Cn8NdaCn4mLo1bMc3Mn4Cn2Mc4Mn2Mc1Mn2PonLo4Mn2CnyLo1cMc3Mn8Mc2Mn1M",
      "c1Mn2Po3Lo1CnbNdaCn6PodCnjLo17Mn1Mc1Mn1Mc2Mn6Mc1Mn1Lo1Po1Cn6NdaCn1iLorCn2Mn3Mc2Mn4Mc1Mn5Cn",
      "4NdaNo2Po3So1Lo7Cn55Lo18Mc3Mn9Mc1Mn2Po1Cn2sLuwLlwNdaNo9CncLo8Cn2Lo1Cn2Lo8Cn1Lo2Cn1LooMc6Cn",
      "1Mc2Cn2Mn2Mc1Mn1Lo1Mc1Lo1Mc1Mn1Po3Cn9NdaCn1yLo8Cn2Lo13Mc3Mn4Cn2Mn2Mc4Mn1Lo1Po1Lo1Mc1CnrLo1",
      "MnaLo14Mn6Mc1Lo1Mn4Po8Mn1Cn8Lo1Mn6Mc2Mn3Lo1aMndMc1Mn2Po3Lo1Po5CndLo21Cn7PoaCn6uLo9Cn1Lo11M",
      "c1Mn7Cn1Mn6Mc1Mn1Lo1Po5CnaNdaNojCn3Po2LouCn2MnmCn1Mc1Mn7Mc1Mn2Mc1Mn2Cn21Lo7Cn1Lo2Cn1Lo12Mn",
      "6Cn3Mn1Cn1Mn2Cn1Mn7Lo1Mn1Cn8NdaCn6Lo6Cn1Lo2Cn1LowMc5Cn1Mn2Cn1Mc2Mn1Mc1Mn1Lo1Cn7NdaCn8mLojM",
      "n2Mc2Po2Cn7Mn2Lo1Mc1LodCn1LoyMc2Mn5Cn3Mc2Mn1Mc1Mn1PodNdaCn2eLo1CnfNolSo8Sc4SohCndPo1LopmCn",
      "2uNl33Cn1Po5CnbLo5gCn218Lo2pPo2CndLotsCfgMn1Lo6MnfCn33eLog7Cn6ntLoftCn7LovCn1NdaCn4Po2Lo27",
      "Cn1NdaCn6LouCn2Mn5Po1CnaLo1cMn7Po5So4Lm4Po1So1CnaNdaCn1No7Cn1LolCn5LojCnj4LuwLlwNonPo4Cn2t",
      "Lo23Cn4Mn1Lo1Mc1jCn7Mn4LmdCn1sLm2Po1Lm1Mn1CnbMc2CneLo4qgCn8LoyeCn16Lo9Cn6w7Lm4Cn1Lm7Cn1Lm2",
      "Cn1Lo83CnfLo1CntLo3Cn2Lo1CneLo4Cn8Lob0Cn1s4Lo2zCn5LodCn3Lo9Cn7LoaCn2So1Mn2Po1Cf4Cn3mkMn1aC",
      "n2MnnCn9So38Cn1oSo6uCnaSo13Cn2So1oMc2Mn3So3Mc6Cf8Mn8So2Mn7SouMn4So1pCnlSo1uMn3So1Cn3eNokCn",
      "cNokCncSo2fCn9NopCn3rLuqLlqLuqLl7Cn1LliLuqLlqLu1Cn1Lu2Cn2Lu1Cn2Lu2Cn2Lu4Cn1Lu8Ll4Cn1Ll1Cn1",
      "Ll7Cn1LlbLuqLlqLu2Cn1Lu4Cn2Lu8Cn1Lu7Cn1LlqLu2Cn1Lu4Cn1Lu5Cn1Lu1Cn3Lu7Cn1LlqLuqLlqLuqLlqLuq",
      "LlqLuqLlqLuqLlqLuqLlsCn2LupSm1LlpSm1Ll6LupSm1LlpSm1Ll6LupSm1LlpSm1Ll6LupSm1LlpSm1Ll6LupSm1",
      "LlpSm1Ll6Lu1Ll1Cn2Nd1eSoe8Mn1jSo4Mn1eSo8Mn1SoeMn1So2Po5CnfMn5Cn1MnfCnuoLlaLo1LlkCn6Ll6Cn5x",
      "Mn7Cn1MnhCn2Mn7Cn1Mn2Cn1Mn5Cn5Lm1qCnxMn1Cn34Lo19Cn3Mn7Lm7Cn2NdaCn4Lo1So1Cn8wLouMn1CnhLo18M",
      "n4NdaCn5Sc1CncwLorLm1Mn4NdaCnkmLo7Cn1Lo4Cn1Lo2Cn1LofCn1Lo5hCn2No9Mn7Cn15LuyLlyMn7Lm1Cn4Nda",
      "Cn4Po2CnltNo1nSo1No3Sc1No4Cn24No19So1NofCn5eLo4Cn1LorCn1Lo2Cn1Lo1Cn2Lo1Cn1LoaCn1Lo4Cn1Lo1C",
      "n1Lo1Cn6Lo1Cn4Lo1Cn1Lo1Cn1Lo1Cn1Lo3Cn1Lo2Cn1Lo1Cn2Lo1Cn1Lo1Cn1Lo1Cn1Lo1Cn1Lo1Cn1Lo2Cn1Lo1C",
      "n2Lo4Cn1Lo7Cn1Lo4Cn1Lo4Cn1Lo1Cn1LoaCn1LohCn5Lo3Cn1Lo5Cn1LohCn1gSm2Cn7iSo18Cn4So2sCncSofCn2",
      "SofCn1SofCn1So11CnaNodSo4hCn1kSotCndSo18Cn4So9Cn7So2CneSo6Cn4aSo6zSk5Sok8Cn4SohCn3SodCn3So",
      "3bCn4So2nCn6SocCn4So1CnfSocCn4So1kCn8SoaCn6So14Cn8SouCn2So2Cn26So9gCncSoeCn2SodCn3So9Cn7So",
      "1aCn1So7Cn8SoeCn4So9Cn7So9Cn7So43Cn1So1jCn11NdaCnsmLowyoCnwLo37eCn6Lo66Cn2Lo4g2CneLo5rlCn2",
      "e7Lof2Cn15uLo3t7Cn5Lo38gCnf975Cf1CnuCf2oCn3kMn6oCn1e6oCo1ekeCn2Co1ekeCn"]

/-- The starts of the runs with their categories. -/
def categoryRuns : List (Nat × String) :=
  labelledRuns 2 categoryTable.toList

/-- The characters whose category has the given first letters. -/
def categorySet (letters : String) : CharSet :=
  labelledSet categoryRuns fun label => letters.toList.isPrefixOf label.toList

/-- The names of the categories and groups, in lower case without separators, and the first letters
of the categories they stand for. -/
def categoryNames : List (List String × List String) :=
  [(["c", "other"], ["C"]), (["cc", "control", "cntrl"], ["Cc"]), (["cf", "format"], ["Cf"]),
    (["cn", "unassigned"], ["Cn"]), (["co", "privateuse"], ["Co"]), (["l", "letter"], ["L"]),
    (["lc", "casedletter"], ["Lu", "Ll", "Lt"]), (["ll", "lowercaseletter"], ["Ll"]),
    (["lm", "modifierletter"], ["Lm"]), (["lo", "otherletter"], ["Lo"]),
    (["lt", "titlecaseletter"], ["Lt"]), (["lu", "uppercaseletter"], ["Lu"]),
    (["m", "mark", "combiningmark"], ["M"]), (["mc", "spacingmark"], ["Mc"]),
    (["me", "enclosingmark"], ["Me"]), (["mn", "nonspacingmark"], ["Mn"]),
    (["n", "number"], ["N"]), (["nd", "decimalnumber", "digit"], ["Nd"]),
    (["nl", "letternumber"], ["Nl"]), (["no", "othernumber"], ["No"]),
    (["p", "punctuation", "punct"], ["P"]), (["pc", "connectorpunctuation"], ["Pc"]),
    (["pd", "dashpunctuation"], ["Pd"]), (["pe", "closepunctuation"], ["Pe"]),
    (["pf", "finalpunctuation"], ["Pf"]), (["pi", "initialpunctuation"], ["Pi"]),
    (["po", "otherpunctuation"], ["Po"]), (["ps", "openpunctuation"], ["Ps"]),
    (["s", "symbol"], ["S"]), (["sc", "currencysymbol"], ["Sc"]),
    (["sk", "modifiersymbol"], ["Sk"]), (["sm", "mathsymbol"], ["Sm"]),
    (["so", "othersymbol"], ["So"]), (["z", "separator"], ["Z"]),
    (["zl", "lineseparator"], ["Zl"]), (["zp", "paragraphseparator"], ["Zp"]),
    (["zs", "spaceseparator"], ["Zs"])]

/-- The characters of a category or group, given by its name in lower case without separators. -/
def category? (name : String) : Option CharSet :=
  if name = "any" then some CharSet.full
  else if name = "assigned" then some (categorySet "Cn").complement
  else if name = "ascii" then some (CharSet.ofRanges [(0, 0x7F)])
  else
    (categoryNames.find? fun entry => entry.1.contains name).map fun entry =>
      entry.2.foldl (fun set letters => set.union (categorySet letters)) CharSet.empty

end ApiReplay.Text
