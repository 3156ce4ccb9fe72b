/-
The general categories of Unicode 15, one for each code point.

The text is a sequence of runs in order of code points, starting at zero.  A run is the
two letters of its category and, in hexadecimal, how many more code points follow its
first one; nothing follows where there are no more.
-/

namespace DeviceLint.Text.Category

/-- Runs of one general category. -/
def table : String := String.join [
  "Cc1fZsPo2ScPo2PsPePoSmPoPdPo1Nd9Po1Sm2Po1Lu19PsPoPeSkPcSkLl19PsSmPeSmCc20ZsPoSc3SoPoSkSoLoPi",
  "SmCfSoSkSoSmNo1SkLlPo1SkNoLoPfNo2PoLu16SmLu6Ll17SmLl7LuLlLuLlLuLlLuLlLuLlLuLlLuLlLuLlLuLlLuL",
  "lLuLlLuLlLuLlLuLlLuLlLuLlLuLlLuLlLuLlLuLlLuLlLuLlLuLlLuLlLuLlLuLlLuLlLuLl1LuLlLuLlLuLlLuLlLu",
  "LlLuLlLuLlLuLl1LuLlLuLlLuLlLuLlLuLlLuLlLuLlLuLlLuLlLuLlLuLlLuLlLuLlLuLlLuLlLuLlLuLlLuLlLuLlL",
  "uLlLuLlLuLlLuLlLu1LlLuLlLuLl2Lu1LlLuLlLu1LlLu2Ll1Lu3LlLu1LlLu2Ll2Lu1LlLu1LlLuLlLuLlLu1LlLuLl",
  "1LuLlLu1LlLu2LlLuLlLu1Ll1LoLuLl2Lo3LuLtLlLuLtLlLuLtLlLuLlLuLlLuLlLuLlLuLlLuLlLuLlLuLl1LuLlLu",
  "LlLuLlLuLlLuLlLuLlLuLlLuLlLuLl1LuLtLlLuLlLu2LlLuLlLuLlLuLlLuLlLuLlLuLlLuLlLuLlLuLlLuLlLuLlLu",
  "LlLuLlLuLlLuLlLuLlLuLlLuLlLuLlLuLlLuLlLuLlLuLlLuLlLuLlLuLlLuLlLuLlLuLl6Lu1LlLu1Ll1LuLlLu3LlL",
  "uLlLuLlLuLlLuLl44LoLl1aLm11Sk3LmbSkdLm4Sk6LmSkLmSk10Mn6fLuLlLuLlLmSkLuLlCn1LmLl2PoLuCn3Sk1Lu",
  "PoLu2CnLuCnLu1LlLu10CnLu8Ll22LuLl1Lu2Ll2LuLlLuLlLuLlLuLlLuLlLuLlLuLlLuLlLuLlLuLlLuLlLuLl4LuL",
  "lSmLuLlLu1Ll1Lu32Ll2fLuLlLuLlLuLlLuLlLuLlLuLlLuLlLuLlLuLlLuLlLuLlLuLlLuLlLuLlLuLlLuLlLuLlSoM",
  "n4Me1LuLlLuLlLuLlLuLlLuLlLuLlLuLlLuLlLuLlLuLlLuLlLuLlLuLlLuLlLuLlLuLlLuLlLuLlLuLlLuLlLuLlLuL",
  "lLuLlLuLlLuLlLuLlLuLlLu1LlLuLlLuLlLuLlLuLlLuLlLuLl1LuLlLuLlLuLlLuLlLuLlLuLlLuLlLuLlLuLlLuLlL",
  "uLlLuLlLuLlLuLlLuLlLuLlLuLlLuLlLuLlLuLlLuLlLuLlLuLlLuLlLuLlLuLlLuLlLuLlLuLlLuLlLuLlLuLlLuLlL",
  "uLlLuLlLuLlLuLlLuLlLuLlLuLlLuLlLuLlLuLlLuLlLuLlLuLlLuLlLuLlCnLu25Cn1LmPo5Ll28PoPdCn1So1ScCnM",
  "n2cPdMnPoMn1PoMn1PoMnCn7Lo1aCn3Lo3Po1CnaCf5Sm2Po1ScPo1So1MnaPoCfPo2Lo1fLmLo9Mn14Nd9Po3Lo1MnL",
  "o62PoLoMn6CfSoMn5Lm1Mn1SoMn3Lo1Nd9Lo2So1LoPodCnCfLoMnLo1dMn1aCn1Lo58MnaLoCndNd9Lo20Mn8Lm1SoP",
  "o2LmCn1MnSc1Lo15Mn3LmMn8LmMn2LmMn4Cn1PoeCnLo18Mn2Cn1PoCnLoaCn4Lo17SkLo5CnCf1Cn5Mn7Lo28LmMn17",
  "CfMn1fMcLo35MnMcMnLoMc2Mn7Mc3MnMc1LoMn6Lo9Mn1Po1Nd9PoLmLoeMnMc1CnLo7Cn1Lo1Cn1Lo15CnLo6CnLoCn",
  "2Lo3Cn1MnLoMc2Mn3Cn1Mc1Cn1Mc1MnLoCn7McCn3Lo1CnLo2Mn1Cn1Nd9Lo1Sc1No5SoScLoPoMnCn1Mn1McCnLo5Cn",
  "3Lo1Cn1Lo15CnLo6CnLo1CnLo1CnLo1Cn1MnCnMc2Mn1Cn3Mn1Cn1Mn2Cn2MnCn6Lo3CnLoCn6Nd9Mn1Lo2MnPoCn9Mn",
  "1McCnLo8CnLo2CnLo15CnLo6CnLo1CnLo4Cn1MnLoMc2Mn4CnMn1McCnMc1MnCn1LoCneLo1Mn1Cn1Nd9PoScCn6LoMn",
  "5CnMnMc1CnLo7Cn1Lo1Cn1Lo15CnLo6CnLo1CnLo4Cn1MnLoMcMnMcMn3Cn1Mc1Cn1Mc1MnCn6Mn1McCn3Lo1CnLo2Mn",
  "1Cn1Nd9SoLoNo5Cn9MnLoCnLo5Cn2Lo2CnLo3Cn2Lo1CnLoCnLo1Cn2Lo1Cn2Lo2Cn2LobCn3Mc1MnMc1Cn2Mc2CnMc2",
  "MnCn1LoCn5McCndNd9No2So5ScSoCn4MnMc2MnLo7CnLo2CnLo16CnLofCn1MnLoMn2Mc3CnMn2CnMn3Cn6Mn1CnLo2C",
  "n1LoCn1Lo1Mn1Cn1Nd9Cn6PoNo6SoLoMnMc1PoLo7CnLo2CnLo16CnLo9CnLo4Cn1MnLoMcMnMc4CnMnMc1CnMc1Mn1C",
  "n6Mc1Cn5Lo1CnLo1Mn1Cn1Nd9CnLo1McCnbMn1Mc1Lo8CnLo2CnLo28Mn1LoMc2Mn3CnMc2CnMc2MnLoSoCn3Lo2McNo",
  "6Lo2Mn1Cn1Nd9No8SoLo5CnMnMc1CnLo11Cn2Lo17CnLo8CnLoCn1Lo6Cn2MnCn3Mc2Mn2CnMnCnMc7Cn5Nd9Cn1Mc1P",
  "oCnbLo2fMnLo1Mn6Cn3ScLo5LmMn7PoNd9Po1Cn24Lo1CnLoCnLo4CnLo17CnLoCnLo9MnLo1Mn8LoCn1Lo4CnLmCnMn",
  "6CnNd9Cn1Lo3Cn1fLoSo2PoeSoPoSo2Mn1So5Nd9No9SoMnSoMnSoMnPsPePsPeMc1Lo7CnLo23Cn3MndMcMn4PoMn1L",
  "o4MnaCnMn23CnSo7MnSo5CnSo1Po4So3Po1Cn24Lo2aMc1Mn3McMn5McMn1Mc1Mn1LoNd9Po5Lo5Mc1Mn1Lo3Mn2LoMc",
  "2Lo1Mc6Lo2Mn3LocMnMc1Mn1Mc5MnLoMcNd9Mc2MnSo1Lu25CnLuCn4LuCn1Ll2aPoLmLl2Lo148CnLo3Cn1Lo6CnLoC",
  "nLo3Cn1Lo28CnLo3Cn1Lo20CnLo3Cn1Lo6CnLoCnLo3Cn1LoeCnLo38CnLo3Cn1Lo42Cn1Mn2Po8No13Cn2LofSo9Cn5",
  "Lu55Cn1Ll5Cn1PdLo26bSoPoLo10ZsLo19PsPeCn2Lo4aPo2Nl2Lo7Cn6Lo11Mn2McCn8Lo12Mn1McPo1Cn8Lo11Mn1C",
  "nbLocCnLo2CnMn1CnbLo33Mn1McMn6Mc7MnMc1MnaPo2LmPo2ScLoMnCn1Nd9Cn5No9Cn5Po5PdPo3Mn2CfMnNd9Cn5L",
  "o22LmLo34Cn6Lo4Mn1Lo21MnLoCn4Lo45Cn9Lo1eCnMn2Mc3Mn1Mc2Cn3Mc1MnMc5Mn2Cn3SoCn2Po1Nd9Lo1dCn1Lo4",
  "CnaLo2bCn3Lo19Cn5Nd9NoCn2So21Lo16Mn1Mc1MnCn1Po1Lo34McMnMcMn6CnMnMcMnMc1Mn7Mc5Mn9Cn1MnNd9Cn5N",
  "d9Cn5Po6LmPo5Cn1MndMeMnfCn30Mn3McLo2eMnMcMn4McMnMc4MnMc1Lo7Cn2Nd9Po6So9Mn8So8Po1CnMn1McLo1dM",
  "cMn3Mc1Mn1McMn2Lo1Nd9Lo2bMnMcMn1Mc2MnMcMn2Mc1Cn7Po3Lo23Mc7Mn7Mc1Mn1Cn2Po4Nd9Cn2Lo2Nd9Lo1dLm5",
  "Po1Ll8Cn6Lu2aCn1Lu2Po7Cn7Mn2PoMncMcMn6Lo3MnLo5MnLo1McMn1LoCn4Ll2bLm3eLlcLmLl21Lm24Mn3fLuLlLu",
  "LlLuLlLuLlLuLlLuLlLuLlLuLlLuLlLuLlLuLlLuLlLuLlLuLlLuLlLuLlLuLlLuLlLuLlLuLlLuLlLuLlLuLlLuLlLu",
  "LlLuLlLuLlLuLlLuLlLuLlLuLlLuLlLuLlLuLlLuLlLuLlLuLlLuLlLuLlLuLlLuLlLuLlLuLlLuLlLuLlLuLlLuLlLu",
  "LlLuLlLuLlLuLlLuLlLuLlLuLlLuLlLuLlLuLlLuLlLuLlLuLlLuLlLuLlLuLlLuLlLuLlLuLlLuLlLuLlLuLlLuLlLu",
  "LlLuLlLuLlLuLlLuLl8LuLlLuLlLuLlLuLlLuLlLuLlLuLlLuLlLuLlLuLlLuLlLuLlLuLlLuLlLuLlLuLlLuLlLuLlL",
  "uLlLuLlLuLlLuLlLuLlLuLlLuLlLuLlLuLlLuLlLuLlLuLlLuLlLuLlLuLlLuLlLuLlLuLlLuLlLuLlLuLlLuLlLuLlL",
  "uLlLuLlLuLlLuLlLuLlLuLlLuLlLuLl8Lu7Ll5Cn1Lu5Cn1Ll7Lu7Ll7Lu7Ll5Cn1Lu5Cn1Ll7CnLuCnLuCnLuCnLuLl",
  "7Lu7LldCn1Ll7Lt7Ll7Lt7Ll7Lt7Ll4CnLl1Lu3LtSkLlSk2Ll2CnLl1Lu3LtSk2Ll3Cn1Ll1Lu3CnSk2Ll7Lu4Sk2Cn",
  "1Ll2CnLl1Lu3LtSk1CnZsaCf4Pd5Po1PiPfPsPi1PfPsPiPo7ZlZpCf4ZsPo8PiPfPo3Pc1Po2SmPsPePoaSmPoPcPo9",
  "ZsCf4CnCf9NoLmCn1No5Sm2PsPeLmNo9Sm2PsPeCnLmcCn2Sc20CneMncMe3MnMe2MnbCneSo1LuSo3LuSo1LlLu2Ll1",
  "Lu2LlSoLuSo1SmLu4So5LuSoLuSoLuSoLu3SoLlLu3LlLo3LlSo1Ll1Lu1Sm4LuLl3SoSmSo1LlSoNofNl22LuLlNl3N",
  "oSo1Cn3Sm4So4Sm1So3SmSo1SmSo1SmSo6SmSo1eSm1So1SmSoSmSo1eSm10bSo7PsPePsPeSo13Sm1So6PsPeSo50Sm",
  "So1dSm18So27Sm5So44Cn18SoaCn14No3bSo4dNo15Sob6SmSo8SmSo35Sm7So6eSmSof7PsPePsPePsPePsPePsPePs",
  "PePsPeNo1dSo2bSm4PsPeSm1ePsPePsPePsPePsPePsPeSmfSoffSm82PsPePsPePsPePsPePsPePsPePsPePsPePsPe",
  "PsPePsPeSm3ePsPePsPeSm1fPsPeSm101So2fSm14So1Sm5So26Cn1So1fCnSo68Lu2fLl2fLuLlLu2Ll1LuLlLuLlLu",
  "LlLu3LlLuLl1LuLl5Lm1Lu2LlLuLlLuLlLuLlLuLlLuLlLuLlLuLlLuLlLuLlLuLlLuLlLuLlLuLlLuLlLuLlLuLlLuL",
  "lLuLlLuLlLuLlLuLlLuLlLuLlLuLlLuLlLuLlLuLlLuLlLuLlLuLlLuLlLuLlLuLlLuLlLuLlLuLlLuLlLuLlLuLlLuL",
  "lLuLlLuLlLuLlLuLlLuLlLuLlLuLlLuLlLuLl1So5LuLlLuLlMn2LuLlCn4Po3NoPo1Ll25CnLlCn4LlCn1Lo37Cn6Lm",
  "PoCndMnLo16Cn8Lo6CnLo6CnLo6CnLo6CnLo6CnLo6CnLo6CnLo6CnMn1fPo1PiPfPiPfPo2PiPfPoPiPfPo8PdPo1Pd",
  "PoPiPfPo1PiPfPsPePsPePsPePsPePo4LmPo9Pd1Po3PdPoPsPocSo1Po2PsPePsPePsPePsPePdCn21So19CnSo58Cn",
  "bSod5Cn19SobCn3ZsPo2SoLmLoNlPsPePsPePsPePsPePsPeSo1PsPePsPePsPePsPePdPsPe1SoNl8Mn3Mc1PdLm4So",
  "1Nl2LmLoPoSo1CnLo55Cn1Mn1Sk1Lm1LoPdLo59PoLm2LoCn4Lo2aCnLo5dCnSo1No3So9Lo1fSo23CnbLofSo1eCnNo",
  "9So1dNo7SoNoeSo1fNo9So26NoeSo13fLo19bfSo3fLo5214LmLo476Cn2So36Cn8Lo27Lm5Po1Lo10bLmPo2LofNd9L",
  "o1Cn13LuLlLuLlLuLlLuLlLuLlLuLlLuLlLuLlLuLlLuLlLuLlLuLlLuLlLuLlLuLlLuLlLuLlLuLlLuLlLuLlLuLlLu",
  "LlLuLlLoMnMe2PoMn9PoLmLuLlLuLlLuLlLuLlLuLlLuLlLuLlLuLlLuLlLuLlLuLlLuLlLuLlLuLlLm1Mn1Lo45Nl9M",
  "n1Po5Cn7Sk16Lm8Sk1LuLlLuLlLuLlLuLlLuLlLuLlLuLl2LuLlLuLlLuLlLuLlLuLlLuLlLuLlLuLlLuLlLuLlLuLlL",
  "uLlLuLlLuLlLuLlLuLlLuLlLuLlLuLlLuLlLuLlLuLlLuLlLuLlLuLlLuLlLuLlLuLlLuLlLuLlLuLlLmLl7LuLlLuLl",
  "Lu1LlLuLlLuLlLuLlLuLlLmSk1LuLlLuLlLoLuLlLuLl2LuLlLuLlLuLlLuLlLuLlLuLlLuLlLuLlLuLlLuLlLu4LlLu",
  "4LlLuLlLuLlLuLlLuLlLuLlLuLlLuLlLu3LlLuLlCn4LuLlCnLlCnLlLuLlLuLlCn17Lm2LuLlLoLm1LlLo6MnLo2MnL",
  "o3MnLo16Mc1Mn1McSo3MnCn2No5So1ScSoCn5Lo33Po3Cn7Mc1Lo31McfMn1Cn7Po1Nd9Cn5Mn11Lo5Po2LoPoLo1MnN",
  "d9Lo1bMn7Po1Lo16MnaMc1CnaPoLo1cCn2Mn2McLo2eMnMc1Mn3Mc1Mn1Mc2PocCnLmNd9Cn3Po1Lo4MnLmLo8Nd9Lo4",
  "CnLo28Mn5Mc1Mn1Mc1Mn1Cn8Lo2MnLo7MnMcCn1Nd9Cn1Po3LofLmLo5So2LoMcMnMcLo31MnLoMn2Lo1Mn1Lo4Mn1Lo",
  "MnLoCn17Lo1LmPo1LoaMcMn1Mc1Po1LoLm1McMnCn9Lo5Cn1Lo5Cn1Lo5Cn8Lo6CnLo6CnLl2aSkLm3Ll8LmSk1Cn3Ll",
  "4fLo22Mc1MnMc1MnMc1PoMcMnCn1Nd9Cn5Lo2ba3CnbLo16Cn3Lo30Cn3Cs7ffCo18ffLo16dCn1Lo69Cn25Ll6CnbLl",
  "4Cn4LoMnLo9SmLocCnLo4CnLoCnLo1CnLo1CnLo6bSk10CnfLo16aPePsSofLo3fCn1Lo35Cn6SoCn1fLobScSo2MnfP",
  "o6PsPePoCn5MnfPoPd1Pc1PsPePsPePsPePsPePsPePsPePsPePsPePo1PsPePo3Pc2Po2CnPo3PdPsPePsPePsPePo2",
  "SmPdSm2CnPoScPo1Cn3Lo4CnLo86Cn1CfCnPo2ScPo2PsPePoSmPoPdPo1Nd9Po1Sm2Po1Lu19PsPoPeSkPcSkLl19Ps",
  "SmPeSmPsPePoPsPePo1Lo9LmLo2cLm1Lo1eCn2Lo5Cn1Lo5Cn1Lo5Cn1Lo2Cn2Sc1SmSkSoSc1CnSoSm3So1Cn9Cf2So",
  "1Cn1LobCnLo19CnLo12CnLo1CnLoeCn1LodCn21Lo7aCn4Po2Cn3No2cCn2So8Nl34No3So10No1So2CnSocCn2SoCn2",
  "eSo2cMnCn81Lo1cCn2Lo30CneMnNo1aCn3Lo1fNo3Cn8Lo13NlLo7NlCn4Lo25Mn4Cn4Lo1dCnPoLo23Cn3Lo7PoNl4C",
  "n29Lu27Ll27Lo4dCn1Nd9Cn5Lu23Cn3Ll23Cn3Lo27Cn7Lo33CnaPoLuaCnLueCnLu6CnLu1CnLlaCnLleCnLl6CnLl1",
  "Cn42Lo136Cn8Lo15Cn9Lo7Cn17Lm5CnLm29CnLm8Cn44Lo5Cn1LoCnLo2bCnLo1Cn2LoCn1Lo16CnPoNo7Lo16So1No6",
  "Lo1eCn7No8Cn2fLo12CnLo1Cn4No4Lo15No5Cn2PoLo19Cn4PoCn3fLo37Cn3No1Lo1NofCn1No2dLoMn2CnMn1Cn4Mn",
  "3Lo3CnLo2CnLo1cCn1Mn2Cn3MnNo8Cn6Po8Cn6Lo1cNo1PoLo1cNo2Cn1fLo7SoLo1bMn1Cn3No4Po6Cn8Lo35Cn2Po6",
  "Lo15Cn1No7Lo12Cn4No7Lo11Cn6Po3CnbNo6Cn4fLo48Cn36Lu32CncLl32Cn6No5Lo23Mn3Cn7Nd9Cn125No1eCnLo2",
  "9CnMn1PdCn1Lo1Cn4aMn2Lo1cNo9LoCn7Lo15MnaNo3Po4Cn15Lo11Mn3Po3Cn25Lo14No6Cn13Lo16Cn8McMnMcLo34",
  "MnePo6Cn3No13Nd9MnLo1Mn1LoCn8Mn2McLo2cMc2Mn3Mc1Mn1Po1CfPo3MnCn9CfCn1Lo18Cn6Nd9Cn5Mn2Lo23Mn4M",
  "cMn7CnNd9Po3LoMc1LoCn7Lo22MnPo1LoCn8Mn1McLo2fMc2Mn8Mc1Lo3Po3Mn3PoMcMnNd9LoPoLoPo2CnNo13CnaLo",
  "11CnLo18Mc2Mn2Mc1MnMcMn1Po5MnLo1MnCn3dLo6CnLoCnLo3CnLoeCnLo9PoCn5Lo2eMnMc2Mn7Cn4Nd9Cn5Mn1Mc1",
  "CnLo7Cn1Lo1Cn1Lo15CnLo6CnLo1CnLo4CnMn1LoMc1MnMc3Cn1Mc1Cn1Mc2Cn1LoCn5McCn4Lo4Mc1Cn1Mn6Cn2Mn4C",
  "n8aLo34Mc2Mn7Mc1Mn2McMnLo3Po4Nd9Po1CnPoMnLo2Cn1dLo2fMc2Mn5McMnMc3Mn1McMn1Lo1PoLoCn7Nd9Cna5Lo",
  "2eMc2Mn3Cn1Mc3Mn1McMn1Po16Lo3Mn1Cn21Lo2fMc2Mn7Mc1MnMcMn1Po2LoCnaNd9Cn5PocCn12Lo2aMnMcMnMc1Mn",
  "5McMnLoPoCn5Nd9Cn35Lo1aCn1Mn2Mc1Mn3McMn4Cn3Nd9No1Po2SoLo6Cnb8Lo2bMc2Mn8McMn1PoCn63Lu1fLl1fNd",
  "9No8CnbLo7Cn1LoCn1Lo7CnLo1CnLo17Mc5CnMc1Cn1Mn1McMnLoMcLoMcMnPo2Cn8Nd9Cn45Lo7Cn1Lo26Mc2Mn3Cn1",
  "Mn1Mc3MnLoPoLoMcCn1aLoMn9Lo27Mn5McLoMn3Po7MnCn7LoMn5Mc1Mn2Lo2dMncMcMn1Po2LoPo4CncLo48Cn6Po9C",
  "nf5Lo8CnLo24McMn6CnMn5McMnLoPo4Cn9Nd9No12Cn2Po1Lo1dCn1Mn15CnMcMn6McMn1McMn1Cn48Lo6CnLo1CnLo2",
  "5Mn5Cn2MnCnMn1CnMn6LoMnCn7Nd9Cn5Lo5CnLo1CnLo1fMc4CnMn1CnMc1MnMcMnLoCn6Nd9Cn135Lo12Mn1Mc1Po1C",
  "n6Mn1LoMcLocCnLo21Mc1Mn4Cn2Mc1MnMcMnPocNd9Cn55LoCneNo14So7Sc3So10CncPoLo399Cn65Nl6eCnPo4CnaL",
  "oc3Cna4bLo60Po1CncLo42fCffMnLo5MneCnfa9Lo246Cn21b8Lo238Cn6Lo1eCnNd9Cn3Po1Lo4eCnNd9Cn5Lo1dCn1",
  "Mn4PoCn9Lo2fMn6Po4So3Lm3PoSoCn9Nd9CnNo6CnLo14Cn4Lo12Cn2afLu1fLl1fNo16Po3Cn64Lo4aCn3MnLoMc36C",
  "n6Mn3LmcCn3fLm1PoLmMnCnaMc1CndLo17f7Cn7Lo4d5Cn29Lo8Cn22e6Lm3CnLm6CnLm1CnLo122CneLoCn1cLo2Cn1",
  "LoCndLo3Cn7Lo18bCn903Lo6aCn4LocCn2Lo8Cn6Lo9Cn1SoMn1PoCf3Cn125bMn2dCn1Mn16Cn8So73Cn3bSof5Cn9S",
  "o26Cn1So3bMc1Mn2So2Mc5Cf7Mn7So1Mn6So1dMn3So3cCn14So41Mn2SoCn79No13CnbNo13CnbSo56Cn8No18Cn86L",
  "u19Ll19Lu19Ll6CnLl11Lu19Ll19LuCnLu1Cn1LuCn1Lu1Cn1Lu3CnLu7Ll3CnLlCnLl6CnLlaLu19Ll19Lu1CnLu3Cn",
  "1Lu7CnLu6CnLl19Lu1CnLu3CnLu4CnLuCn2Lu6CnLl19Lu19Ll19Lu19Ll19Lu19Ll19Lu19Ll19Lu19Ll19Lu19Ll1b",
  "Cn1Lu18SmLl18SmLl5Lu18SmLl18SmLl5Lu18SmLl18SmLl5Lu18SmLl18SmLl5Lu18SmLl18SmLl5LuLlCn1Nd31So1",
  "ffMn36So3Mn31So7MnSodMnSo1Po4CneMn4CnMneCn44fLl9LoLl13Cn5Ll5Cnd4Mn6CnMn10Cn1Mn6CnMn1CnMn4Cn4",
  "Lm3dCn20MnCn6fLo2cCn2Mn6Lm6Cn1Nd9Cn3LoSoCn13fLo1dMnCn10Lo2bMn3Nd9Cn4ScCn1cfLo1aLmMn3Nd9Cn2e5",
  "Lo6CnLo3CnLo1CnLoeCnLoc4Cn1No8Mn6Cn28Lu21Ll21Mn6LmCn3Nd9Cn3Po1Cn310No3aSoNo2ScNo3Cn4bNo2cSoN",
  "oeCnc1Lo3CnLo1aCnLo1CnLoCn1LoCnLo9CnLo3CnLoCnLoCn5LoCn3LoCnLoCnLoCnLo2CnLo1CnLoCn1LoCnLoCnLo",
  "CnLoCnLoCnLo1CnLoCn1Lo3CnLo6CnLo3CnLo3CnLoCnLo9CnLo10Cn4Lo2CnLo4CnLo10Cn33Sm1Cn10dSo2bCn3So6",
  "3CnbSoeCn1SoeCnSoeCnSo24Cn9NocSoa0Cn37So1cCncSo2bCn3So8Cn6So1CndSo5Cn99SofaSk4So2d7Cn3So10Cn",
  "2SocCn2So76Cn3So5eCn5SobCn3SoCneSobCn3So37Cn7So9Cn5So27Cn7So1dCn1So1Cn4dSo153CnbSodCn1SocCn2",
  "So8Cn6So2dCnSo6Cn7SodCn3So8Cn6So8Cn6So92CnSo36Cn24Nd9Cn405Loa6dfCn1fLo1039Cn5LoddCn1Lo1681Cn",
  "dLo1d30Cnc1eLo21dCn5e1Lo134aCn4Lo105fCnadc50CfCn1dCf5fCn7fMnefCnfe0fCofffdCn1CofffdCn1"]

end DeviceLint.Text.Category
