/-
The general category of every code point.
-/
import BytePattern.Unicode.Runs

namespace BytePattern

/-- The general categories in order.  Marks and symbols that count as alphabetic have an `a` after
their category. -/
def categoryTable : String :=
  String.join [
    "Cc32ZsPo3ScPo3PsPePoSmPoPdPo2Nd10Po2Sm3Po2Lu26PsPoPeSkPcSkLl26PsSmPeSmCc33ZsPoSc4SoPoSk",
    "SoLoPiSmCfSoSkSoSmNo2SkLlPo2SkNoLoPfNo3PoLu23SmLu7Ll24SmLl8LuLlLuLlLuLlLuLlLuLlLuLlLuLl",
    "LuLlLuLlLuLlLuLlLuLlLuLlLuLlLuLlLuLlLuLlLuLlLuLlLuLlLuLlLuLlLuLlLuLlLuLlLuLlLuLlLuLl2Lu",
    "LlLuLlLuLlLuLlLuLlLuLlLuLlLuLl2LuLlLuLlLuLlLuLlLuLlLuLlLuLlLuLlLuLlLuLlLuLlLuLlLuLlLuLl",
    "LuLlLuLlLuLlLuLlLuLlLuLlLuLlLuLlLuLlLu2LlLuLlLuLl3Lu2LlLuLlLu2LlLu3Ll2Lu4LlLu2LlLu3Ll3",
    "Lu2LlLu2LlLuLlLuLlLu2LlLuLl2LuLlLu2LlLu3LlLuLlLu2Ll2LoLuLl3Lo4LuLtLlLuLtLlLuLtLlLuLlLuLl",
    "LuLlLuLlLuLlLuLlLuLlLuLl2LuLlLuLlLuLlLuLlLuLlLuLlLuLlLuLlLuLl2LuLtLlLuLlLu3LlLuLlLuLlLu",
    "LlLuLlLuLlLuLlLuLlLuLlLuLlLuLlLuLlLuLlLuLlLuLlLuLlLuLlLuLlLuLlLuLlLuLlLuLlLuLlLuLlLuLlLu",
    "LlLuLlLuLlLuLlLuLl7Lu2LlLu2Ll2LuLlLu4LlLuLlLuLlLuLlLuLl69LoLl27Lm18Sk4Lm12Sk14Lm5Sk7LmSk",
    "LmSk17Mn69MnaMn29Mna13LuLlLuLlLmSkLuLlCn2LmLl3PoLuCn4Sk2LuPoLu3CnLuCnLu2LlLu17CnLu9Ll35",
    "LuLl2Lu3Ll3LuLlLuLlLuLlLuLlLuLlLuLlLuLlLuLlLuLlLuLlLuLlLuLl5LuLlSmLuLlLu2Ll2Lu51Ll48LuLl",
    "LuLlLuLlLuLlLuLlLuLlLuLlLuLlLuLlLuLlLuLlLuLlLuLlLuLlLuLlLuLlLuLlSoMn5Me2LuLlLuLlLuLlLuLl",
    "LuLlLuLlLuLlLuLlLuLlLuLlLuLlLuLlLuLlLuLlLuLlLuLlLuLlLuLlLuLlLuLlLuLlLuLlLuLlLuLlLuLlLuLl",
    "LuLlLu2LlLuLlLuLlLuLlLuLlLuLlLuLl2LuLlLuLlLuLlLuLlLuLlLuLlLuLlLuLlLuLlLuLlLuLlLuLlLuLlLu",
    "LlLuLlLuLlLuLlLuLlLuLlLuLlLuLlLuLlLuLlLuLlLuLlLuLlLuLlLuLlLuLlLuLlLuLlLuLlLuLlLuLlLuLlLu",
    "LlLuLlLuLlLuLlLuLlLuLlLuLlLuLlLuLlLuLlLuLlLuLlLuLlCnLu38Cn2LmPo6Ll41PoPdCn2So2ScCnMn31",
    "Mna14PdMnaPoMna2PoMna2PoMnaCn8Lo27Cn4Lo4Po2Cn11Cf6Sm3Po2ScPo2So2Mna11PoCfPo3Lo32LmLo10",
    "Mna13MnMna7Nd10Po4Lo2MnaLo99PoLoMna7CfSoMn2Mna4Lm2Mna2SoMn3MnaLo2Nd10Lo3So2LoPo14CnCfLo",
    "MnaLo30Mna16Mn11Cn2Lo89Mna11LoCn14Nd10Lo33Mn9Lm2SoPo3LmCn2MnSc2Lo22Mna2Mn2LmMna9LmMna3Lm",
    "Mna4MnCn2Po15CnLo25Mn3Cn2PoCnLo11Cn5Lo24SkLo6CnCf2Cn5MnaMn8Lo41LmMn10Mna12Mn2CfMna7Mn6",
    "Mna19McaLo54MnaMcaMnLoMca3Mna8Mca4MnMca2LoMn4Mna3Lo10Mna2Po2Nd10PoLmLo15MnaMca2CnLo8Cn2",
    "Lo2Cn2Lo22CnLo7CnLoCn3Lo4Cn2MnLoMca3Mna4Cn2Mca2Cn2Mca2MnLoCn8McaCn4Lo2CnLo3Mna2Cn2Nd10",
    "Lo2Sc2No6SoScLoPoMnCn2Mna2McaCnLo6Cn4Lo2Cn2Lo22CnLo7CnLo2CnLo2CnLo2Cn2MnCnMca3Mna2Cn4",
    "Mna2Cn2Mna2MnCn3MnaCn7Lo4CnLoCn7Nd10Mna2Lo3MnaPoCn10Mna2McaCnLo9CnLo3CnLo22CnLo7CnLo2Cn",
    "Lo5Cn2MnLoMca3Mna5CnMna2McaCnMca2MnCn2LoCn15Lo2Mna2Cn2Nd10PoScCn7LoMna3Mn3CnMnaMca2CnLo8",
    "Cn2Lo2Cn2Lo22CnLo7CnLo2CnLo5Cn2MnLoMcaMnaMcaMna4Cn2Mca2Cn2Mca2MnCn7MnMnaMcaCn4Lo2CnLo3",
    "Mna2Cn2Nd10SoLoNo6Cn10MnaLoCnLo6Cn3Lo3CnLo4Cn3Lo2CnLoCnLo2Cn3Lo2Cn3Lo3Cn3Lo12Cn4Mca2Mna",
    "Mca2Cn3Mca3CnMca3MnCn2LoCn6McaCn14Nd10No3So6ScSoCn5MnaMca3MnaLo8CnLo3CnLo23CnLo16Cn2MnLo",
    "Mna3Mca4CnMna3CnMna3MnCn7Mna2CnLo3Cn2LoCn2Lo2Mna2Cn2Nd10Cn7PoNo7SoLoMnaMca2PoLo8CnLo3Cn",
    "Lo23CnLo10CnLo5Cn2MnLoMcaMnaMca5CnMnaMca2CnMca2MnaMnCn7Mca2Cn6Lo2CnLo2Mna2Cn2Nd10CnLo2",
    "McaCn12Mna2Mca2Lo9CnLo3CnLo41Mn2LoMca3Mna4CnMca3CnMca3MnLoSoCn4Lo3McaNo7Lo3Mna2Cn2Nd10",
    "No9SoLo6CnMnaMca2CnLo18Cn3Lo24CnLo9CnLoCn2Lo7Cn3MnCn4Mca3Mna3CnMnaCnMca8Cn6Nd10Cn2Mca2Po",
    "Cn12Lo48MnaLo2Mna7Cn4ScLo6LmMn6MnaMnPoNd10Po2Cn37Lo2CnLoCnLo5CnLo24CnLoCnLo10MnaLo2Mna6",
    "MnMna2LoCn2Lo5CnLmCnMn5MnaMnCnNd10Cn2Lo4Cn32LoSo3Po15SoPoSo3Mn2So6Nd10No10SoMnSoMnSoMnPs",
    "PePsPeMc2Lo8CnLo36Cn4Mna14McaMna4MnPoMn2Lo5Mna11CnMna36CnSo8MnSo6CnSo2Po5So4Po2Cn37Lo43",
    "Mca2Mna4McaMna5MnMcaMn2Mca2Mna2LoNd10Po6Lo6Mca2Mna2Lo4Mna3LoMca3Lo2Mca7Lo3Mna4Lo13Mna",
    "Mca2Mna2Mca6MnaLoMcaNd10Mca3MnaSo2Lu38CnLuCn5LuCn2Ll43PoLmLl3Lo329CnLo4Cn2Lo7CnLoCnLo4",
    "Cn2Lo41CnLo4Cn2Lo33CnLo4Cn2Lo7CnLoCnLo4Cn2Lo15CnLo57CnLo4Cn2Lo67Cn2Mn3Po9No20Cn3Lo16So10",
    "Cn6Lu86Cn2Ll6Cn2PdLo620SoPoLo17ZsLo26PsPeCn3Lo75Po3Nl3Lo8Cn7Lo18Mna2MnMcCn9Lo19Mna2McPo2",
    "Cn9Lo18Mna2Cn12Lo13CnLo3CnMna2Cn12Lo52Mn2McaMna7Mca8MnaMca2Mn11Po3LmPo3ScLoMnCn2Nd10Cn6",
    "No10Cn6Po6PdPo4Mn3CfMnNd10Cn6Lo35LmLo53Cn7Lo5Mna2Lo34MnaLoCn5Lo70Cn10Lo31CnMna3Mca4Mna2",
    "Mca3Cn4Mca2MnaMca6Mn3Cn4SoCn3Po2Nd10Lo30Cn2Lo5Cn11Lo44Cn4Lo26Cn6Nd10NoCn3So34Lo23Mna2",
    "Mca2MnaCn2Po2Lo53McaMnaMcaMna7CnMnMcaMnaMca2Mna8Mca6Mna2Mn8Cn2MnNd10Cn6Nd10Cn6Po7LmPo6",
    "Cn2Mn14MeMna2Mn11Mna3Cn49Mna4McaLo47MnMcaMna5McaMnaMca5MnaMcaMcLo8CnPo2Nd10Po7So10Mn9So9",
    "Po3Mna2McaLo30McaMna4Mca2Mna2McMnMna2Lo2Nd10Lo44MnMcaMna2Mca3MnaMcaMna3Mc2Cn8Po4Lo36Mca8",
    "Mna8Mca2MnaMnCn3Po5Nd10Cn3Lo3Nd10Lo30Lm6Po2Ll9LuLlCn5Lu43Cn2Lu3Po8Cn8Mn3PoMn13McMn7Lo4Mn",
    "Lo6MnLo2McMn2LoCn5Ll44Lm63Ll13LmLl34Lm37Mn19Mna34Mn11LuLlLuLlLuLlLuLlLuLlLuLlLuLlLuLlLu",
    "LlLuLlLuLlLuLlLuLlLuLlLuLlLuLlLuLlLuLlLuLlLuLlLuLlLuLlLuLlLuLlLuLlLuLlLuLlLuLlLuLlLuLlLu",
    "LlLuLlLuLlLuLlLuLlLuLlLuLlLuLlLuLlLuLlLuLlLuLlLuLlLuLlLuLlLuLlLuLlLuLlLuLlLuLlLuLlLuLlLu",
    "LlLuLlLuLlLuLlLuLlLuLlLuLlLuLlLuLlLuLlLuLlLuLlLuLlLuLlLuLlLuLlLuLlLuLlLuLlLuLlLuLlLuLlLu",
    "Ll9LuLlLuLlLuLlLuLlLuLlLuLlLuLlLuLlLuLlLuLlLuLlLuLlLuLlLuLlLuLlLuLlLuLlLuLlLuLlLuLlLuLl",
    "LuLlLuLlLuLlLuLlLuLlLuLlLuLlLuLlLuLlLuLlLuLlLuLlLuLlLuLlLuLlLuLlLuLlLuLlLuLlLuLlLuLlLuLl",
    "LuLlLuLlLuLlLuLlLuLlLuLl9Lu8Ll6Cn2Lu6Cn2Ll8Lu8Ll8Lu8Ll6Cn2Lu6Cn2Ll8CnLuCnLuCnLuCnLuLl8",
    "Lu8Ll14Cn2Ll8Lt8Ll8Lt8Ll8Lt8Ll5CnLl2Lu4LtSkLlSk3Ll3CnLl2Lu4LtSk3Ll4Cn2Ll2Lu4CnSk3Ll8Lu5",
    "Sk3Cn2Ll3CnLl2Lu4LtSk2CnZs11Cf5Pd6Po2PiPfPsPi2PfPsPiPo8ZlZpCf5ZsPo9PiPfPo4Pc2Po3SmPsPe",
    "Po11SmPoPcPo10ZsCf5CnCf10NoLmCn2No6Sm3PsPeLmNo10Sm3PsPeCnLm13Cn3Sc33Cn15Mn13Me4MnMe3Mn12",
    "Cn15So2LuSo4LuSo2LlLu3Ll2Lu3LlSoLuSo2SmLu5So6LuSoLuSoLuSoLu4SoLlLu4LlLo4LlSo2Ll2Lu2Sm5Lu",
    "Ll4SoSmSo2LlSoNo16Nl35LuLlNl4NoSo2Cn4Sm5So5Sm2So4SmSo2SmSo2SmSo7SmSo31Sm2So2SmSoSmSo31",
    "Sm268So8PsPePsPeSo20Sm2So7PsPeSo81SmSo30Sm25So40Sm6So72Cn22So11Cn21No60So26Soa52No22",
    "So183SmSo9SmSo54Sm8So111SmSo248PsPePsPePsPePsPePsPePsPePsPeNo30So44Sm5PsPeSm31PsPePsPePs",
    "PePsPePsPeSm16So256Sm131PsPePsPePsPePsPePsPePsPePsPePsPePsPePsPePsPeSm63PsPePsPeSm32PsPe",
    "Sm258So48Sm21So2Sm6So39Cn2So32CnSo105Lu48Ll48LuLlLu3Ll2LuLlLuLlLuLlLu4LlLuLl2LuLl6Lm2Lu3",
    "LlLuLlLuLlLuLlLuLlLuLlLuLlLuLlLuLlLuLlLuLlLuLlLuLlLuLlLuLlLuLlLuLlLuLlLuLlLuLlLuLlLuLlLu",
    "LlLuLlLuLlLuLlLuLlLuLlLuLlLuLlLuLlLuLlLuLlLuLlLuLlLuLlLuLlLuLlLuLlLuLlLuLlLuLlLuLlLuLlLu",
    "LlLuLlLuLlLuLlLuLlLuLl2So6LuLlLuLlMn3LuLlCn5Po4NoPo2Ll38CnLlCn5LlCn2Lo56Cn7LmPoCn14Mn",
    "Lo23Cn9Lo7CnLo7CnLo7CnLo7CnLo7CnLo7CnLo7CnLo7CnMna32Po2PiPfPiPfPo3PiPfPoPiPfPo9PdPo2PdPo",
    "PiPfPo2PiPfPsPePsPePsPePsPePo5LmPo10Pd2Po4PdPoPsPo13So2Po3PsPePsPePsPePsPePdCn34So26Cn",
    "So89Cn12So214Cn26So16ZsPo3SoLmLoNlPsPePsPePsPePsPePsPeSo2PsPePsPePsPePsPePdPsPe2SoNl9Mn4",
    "Mc2PdLm5So2Nl3LmLoPoSo2CnLo86Cn2Mn2Sk2Lm2LoPdLo90PoLm3LoCn5Lo43CnLo94CnSo2No4So10Lo32",
    "So38Cn9SoLo16So31CnNo10So30No8SoNo15So32No10So39No15So320Lo6592So64Lo21013LmLo1143Cn3",
    "So55Cn9Lo40Lm6Po2Lo268LmPo3Lo16Nd10Lo2Cn20LuLlLuLlLuLlLuLlLuLlLuLlLuLlLuLlLuLlLuLlLuLlLu",
    "LlLuLlLuLlLuLlLuLlLuLlLuLlLuLlLuLlLuLlLuLlLuLlLoMnMe3PoMna8Mn2PoLmLuLlLuLlLuLlLuLlLuLlLu",
    "LlLuLlLuLlLuLlLuLlLuLlLuLlLuLlLuLlLm2Mna2Lo70Nl10Mn2Po6Cn8Sk23Lm9Sk2LuLlLuLlLuLlLuLlLuLl",
    "LuLlLuLl3LuLlLuLlLuLlLuLlLuLlLuLlLuLlLuLlLuLlLuLlLuLlLuLlLuLlLuLlLuLlLuLlLuLlLuLlLuLlLu",
    "LlLuLlLuLlLuLlLuLlLuLlLuLlLuLlLuLlLuLlLuLlLuLlLmLl8LuLlLuLlLu2LlLuLlLuLlLuLlLuLlLmSk2Lu",
    "LlLuLlLoLuLlLuLl3LuLlLuLlLuLlLuLlLuLlLuLlLuLlLuLlLuLlLuLlLu5LlLu5LlLuLlLuLlLuLlLuLlLuLl",
    "LuLlLuLlLu4LlLuLlLu2LlCn2LuLlCnLlCnLlLuLlLuLlLuLlLuCn21Lm3LuLlLoLm2LlLo7MnaLo3MnLo4Mna",
    "Lo23Mca2Mna2McaSo4MnCn3No6So2ScSoCn6Lo52Po4Cn8Mca2Lo50Mca16MnMnaCn8Po2Nd10Cn6Mn18Lo6Po3",
    "LoPoLo2MnaNd10Lo28Mna5Mn3Po2Lo23Mna11McaMcCn11PoLo29Cn3Mna3McaLo47MnMca2Mna4Mca2Mna2Mca2",
    "McPo13CnLmNd10Cn4Po2Lo5MnaLmLo9Nd10Lo5CnLo41Mna6Mca2Mna2Mca2Mna2Cn9Lo3MnaLo8MnaMcaCn2",
    "Nd10Cn2Po4Lo16LmLo6So3LoMcaMnaMcaLo50MnaLoMna3Lo2Mna2Lo5MnaMnLoMnLoCn24Lo2LmPo2Lo11Mca",
    "Mna2Mca2Po2LoLm2McaMnCn10Lo6Cn2Lo6Cn2Lo6Cn9Lo7CnLo7CnLl43SkLm4Ll9LmSk2Cn4Ll80Lo35Mca2Mna",
    "Mca2MnaMca2PoMcMnCn2Nd10Cn6Lo11172Cn12Lo23Cn4Lo49Cn4Cs2048Co6400Lo366Cn2Lo106Cn38Ll7Cn12",
    "Ll5Cn5LoMnaLo10SmLo13CnLo5CnLoCnLo2CnLo2CnLo108Sk17Cn16Lo363PePsSo16Lo64Cn2Lo54Cn7SoCn32",
    "Lo12ScSo3Mn16Po7PsPePoCn6Mn16PoPd2Pc2PsPePsPePsPePsPePsPePsPePsPePsPePo2PsPePo4Pc3Po3Cn",
    "Po4PdPsPePsPePsPePo3SmPdSm3CnPoScPo2Cn4Lo5CnLo135Cn2CfCnPo3ScPo3PsPePoSmPoPdPo2Nd10Po2",
    "Sm3Po2Lu26PsPoPeSkPcSkLl26PsSmPeSmPsPePoPsPePo2Lo10LmLo45Lm2Lo31Cn3Lo6Cn2Lo6Cn2Lo6Cn2Lo3",
    "Cn3Sc2SmSkSoSc2CnSoSm4So2Cn10Cf3So2Cn2Lo12CnLo26CnLo19CnLo2CnLo15Cn2Lo14Cn34Lo123Cn5Po3",
    "Cn4No45Cn3So9Nl53No4So17No2So3CnSo13Cn3SoCn47So45MnCn130Lo29Cn3Lo49Cn15MnNo27Cn4Lo32No4",
    "Cn9Lo20NlLo8NlCn5Lo38Mna5Cn5Lo30CnPoLo36Cn4Lo8PoNl5Cn42Lu40Ll40Lo78Cn2Nd10Cn6Lu36Cn4Ll36",
    "Cn4Lo40Cn8Lo52Cn11PoLu11CnLu15CnLu7CnLu2CnLl11CnLl15CnLl7CnLl2Cn3Lo52Cn12Lo311Cn9Lo22",
    "Cn10Lo8Cn24Lm6CnLm42CnLm9Cn69Lo6Cn2LoCnLo44CnLo2Cn3LoCn2Lo23CnPoNo8Lo23So2No7Lo31Cn8No9",
    "Cn48Lo19CnLo2Cn5No5Lo22No6Cn3PoLo26Cn5PoCn64Lo56Cn4No2Lo2No16Cn2No46LoMna3CnMna2Cn5Mna4",
    "Lo4CnLo3CnLo29Cn2Mn3Cn4MnNo9Cn7Po9Cn7Lo29No2PoLo29No3Cn32Lo8SoLo28Mn2Cn4No5Po7Cn9Lo54Cn3",
    "Po7Lo22Cn2No8Lo19Cn5No8Lo18Cn7Po4Cn12No7Cn80Lo73Cn55Lu51Cn13Ll51Cn7No6Lo36Mna4Cn8Nd10Cn6",
    "Nd10Lo4LmLoLu22Cn3MnaMn4PdLmLl22Cn8Sm2Cn208No31CnLo42CnMna2PdCn2Lo2Cn16Lo3Cn55MnaMn3Lo29",
    "No10LoCn8Lo22Mn11No4Po5Cn22Lo18Mn4Po4Cn38Lo21No7Cn20Lo23Cn9McaMnaMcaLo53Mna14MnPo7Cn4",
    "No20Nd10MnLo2Mna2LoCn9MnMna2McaLo45Mca3Mna4Mca2Mn2Po2CfPo4MnaCn10CfCn2Lo25Cn7Nd10Cn6Mna3",
    "Lo36Mna5McaMna6Mn2CnNd10Po4LoMca2LoCn8Lo35MnPo2LoCn9Mna2McaLo48Mca3Mna9McaMcLo4Po4Mn4Po",
    "McaMnaNd10LoPoLoPo3CnNo20Cn11Lo18CnLo25Mca3Mna3Mca2MnaMcMnMnaPo6MnaLo2MnaCn62Lo7CnLoCn",
    "Lo4CnLo15CnLo10PoCn6Lo47MnaMca3Mna6Mn2Cn5Nd10Cn6Mna2Mca2CnLo8Cn2Lo2Cn2Lo22CnLo7CnLo2Cn",
    "Lo5CnMn2LoMca2MnaMca4Cn2Mca2Cn2Mca2McCn2LoCn6McaCn5Lo5Mca2Cn2Mn7Cn3Mn5Cn11Lo10CnLoCn2Lo",
    "CnLo38CnLoMca3Mna6CnMcaCn2McaCnMca4CnMca2MnMcMnLoMnLoPo2CnPo2Cn8Mn2Cn29Lo53Mca3Mna8Mca2",
    "MnMna2McaMnLo4Po5Nd10Po2CnPoMnLo3Cn30Lo48Mca3Mna6McaMnaMca4Mna2McaMn2Lo2PoLoCn8Nd10Cn166",
    "Lo47Mca3Mna4Cn2Mca4Mna2McaMn2Po23Lo4Mna2Cn34Lo48Mca3Mna8Mca2MnaMcaMnMnaPo3LoCn11Nd10Cn6",
    "Po13Cn19Lo43MnaMcaMnaMca2Mna6McMnLoPoCn6Nd10Cn6Nd20Cn28Lo27Cn2MnaMcaMnaMca2Mna4McaMna4Mn",
    "Cn4Nd10No2Po3SoLo7Cn185Lo44Mca3Mna9McaMn2PoCn100Lu32Ll32Nd10No9Cn12Lo8Cn2LoCn2Lo8CnLo2Cn",
    "Lo24Mca6CnMca2Cn2Mna2McMnLoMcaLoMcaMnPo3Cn9Nd10Cn70Lo8Cn2Lo39Mca3Mna4Cn2Mna2Mca4MnLoPoLo",
    "McaCn27LoMna10Lo40Mn2Mna4McaLoMna4Po8MnCn8LoMna6Mca2Mna3Lo46Mna13McaMn2Po3LoPo5Cn13Lo73",
    "Cn7Po10Cn182Lo33PoCn14Nd10Cn6Lo9CnLo37McaMna7CnMna6McaMnLoPo5Cn10Nd10No19Cn3Po2Lo30Cn2",
    "Mna22CnMcaMna7McaMna2McaMna2Cn73Lo7CnLo2CnLo38Mna6Cn3MnaCnMna2CnMna3MnMnaMn2LoMnaCn8Nd10",
    "Cn6Lo6CnLo2CnLo32Mca5CnMna2CnMca2MnaMcaMnLoCn7Nd10Cn310Lo19Mna2Mca2Po2Cn7Mna2LoMcaLo13Cn",
    "Lo34Mca2Mna5Cn3Mca2MnaMcMnPo13Nd10MnCn85LoCn15No21So8Sc4So17Cn13PoLo922Cn102Nl111CnPo5",
    "Cn11Lo196Cn2636Lo97Po2Cn13Lo1072Cf16MnLo6Mn15Cn10Lo3995Cn5Lo583Cn6841Lo30Mna12Mca3Mna2Mn",
    "Nd10Cn1734Lo569Cn7Lo31CnNd10Cn4Po2Lo79CnNd10Cn6Lo30Cn2Mn5PoCn10Lo48Mn7Po5So4Lm4PoSoCn10",
    "Nd10CnNo7CnLo21Cn5Lo19Cn432Lm3Lo40Lm2Po3Nd10Cn198Lu32Ll32No23Po4Cn101Lo75Cn4MnaLoMca55",
    "Cn7Mna4Lm13Cn64Lm2PoLmMnCn11Mca2Cn14Lo6136Cn8Lo1238Cn41Lo10Cn8935Lm4CnLm7CnLm2CnLo291",
    "Cn15LoCn29Lo3Cn2LoCn14Lo4Cn8Lo396Cn2308Lo107Cn5Lo13Cn3Lo9Cn7Lo10Cn2SoMnMnaPoCf4Cn3932",
    "So240Nd10Cn6So436Cn76Mn46Cn2Mn23Cn9So116Cn60So246Cn10So39Cn2So60Mc2Mn3So3Mc6Cf8Mn8So2Mn7",
    "So30Mn4So61Cn21So66Mn3SoCn122No20Cn12No20Cn12So87Cn9No25Cn135Lu26Ll26Lu26Ll7CnLl18Lu26",
    "Ll26LuCnLu2Cn2LuCn2Lu2Cn2Lu4CnLu8Ll4CnLlCnLl7CnLl11Lu26Ll26Lu2CnLu4Cn2Lu8CnLu7CnLl26Lu2",
    "CnLu4CnLu5CnLuCn3Lu7CnLl26Lu26Ll26Lu26Ll26Lu26Ll26Lu26Ll26Lu26Ll26Lu26Ll28Cn2Lu25SmLl25",
    "SmLl6Lu25SmLl25SmLl6Lu25SmLl25SmLl6Lu25SmLl25SmLl6Lu25SmLl25SmLl6LuLlCn2Nd50So512Mn55So4",
    "Mn50So8MnSo14MnSo2Po5Cn15Mn5CnMn15Cn1104Ll10LoLl20Cn6Ll6Cn213Mna7CnMna17Cn2Mna7CnMna2Cn",
    "Mna5Cn5Lm62Cn33MnaCn112Lo45Cn3Mn7Lm7Cn2Nd10Cn4LoSoCn320Lo30MnCn17Lo44Mn4Nd10Cn5ScCn464",
    "Lo27LmMn4Nd10Cn214Lo30Mn2LoNd10Cn4PoCn480Lo7CnLo4CnLo2CnLo15CnLo197Cn2No9Mn7Cn41Lu34Ll34",
    "Mn3MnaMn3LmCn4Nd10Cn4Po2Cn785No59SoNo3ScNo4Cn76No45SoNo15Cn194Lo4CnLo27CnLo2CnLoCn2LoCn",
    "Lo10CnLo4CnLoCnLoCn6LoCn4LoCnLoCnLoCnLo3CnLo2CnLoCn2LoCnLoCnLoCnLoCnLoCnLo2CnLoCn2Lo4Cn",
    "Lo7CnLo4CnLo4CnLoCnLo10CnLo17Cn5Lo3CnLo5CnLo17Cn52Sm2Cn270So44Cn4So100Cn12So15Cn2So15Cn",
    "So15CnSo37Cn10No13So35Soa26So6Soa26So6Soa26So36Cn56So29Cn13So44Cn4So9Cn7So2Cn14So6Cn154",
    "So251Sk5So728Cn4So17Cn3So13Cn3So119Cn4So95Cn6So12Cn4SoCn15So12Cn4So56Cn8So10Cn6So40Cn8",
    "So30Cn2So12Cn4So2Cn62So340Cn12So14Cn2So13Cn3So10Cn5So56Cn7So15Cn2So11Cn6So9Cn7So147Cn",
    "So92Nd10Cn1030Lo42720Cn32Lo4154Cn6Lo222Cn2Lo5762Cn14Lo7473Cn15Lo622Cn2466Lo542Cn1506",
    "Lo4939Cn5Lo4192Cn711761CfCn30Cf96Cn128Mn240Cn65040Co65534Cn2Co65534Cn2"]

/-- The runs of general categories. -/
def categoryRuns : List Run :=
  Run.readTable categoryTable

/-- The characters of general categories. -/
def ofCategories (names : List String) : IntervalSet :=
  Run.select categoryRuns names

/-- The names of letters of any kind. -/
def letterCategories : List String := ["Lu", "Ll", "Lt", "Lm", "Lo"]

/-- The names of marks of any kind. -/
def markCategories : List String := ["Mn", "Mna", "Mc", "Mca", "Me"]

/-- The names of numbers of any kind. -/
def numberCategories : List String := ["Nd", "Nl", "No"]

/-- The names of punctuation of any kind. -/
def punctuationCategories : List String := ["Pc", "Pd", "Ps", "Pe", "Pi", "Pf", "Po"]

/-- The names of symbols of any kind. -/
def symbolCategories : List String := ["Sm", "Sc", "Sk", "So", "Soa"]

/-- The names of what counts as alphabetic. -/
def alphabeticCategories : List String :=
  letterCategories ++ ["Nl", "Mna", "Mca", "Soa"]

/-- The general categories by the names that a pattern can give them, without case or separators. -/
def categoryNames : List (List String × List String) :=
  [(["l", "letter"], letterCategories),
   (["lc", "casedletter"], ["Lu", "Ll", "Lt"]),
   (["lu", "uppercaseletter"], ["Lu"]),
   (["ll", "lowercaseletter"], ["Ll"]),
   (["lt", "titlecaseletter"], ["Lt"]),
   (["lm", "modifierletter"], ["Lm"]),
   (["lo", "otherletter"], ["Lo"]),
   (["m", "mark", "combiningmark"], markCategories),
   (["mn", "nonspacingmark"], ["Mn", "Mna"]),
   (["mc", "spacingmark"], ["Mc", "Mca"]),
   (["me", "enclosingmark"], ["Me"]),
   (["n", "number"], numberCategories),
   (["nd", "decimalnumber", "digit"], ["Nd"]),
   (["nl", "letternumber"], ["Nl"]),
   (["no", "othernumber"], ["No"]),
   (["p", "punctuation", "punct"], punctuationCategories),
   (["pc", "connectorpunctuation"], ["Pc"]),
   (["pd", "dashpunctuation"], ["Pd"]),
   (["ps", "openpunctuation"], ["Ps"]),
   (["pe", "closepunctuation"], ["Pe"]),
   (["pi", "initialpunctuation"], ["Pi"]),
   (["pf", "finalpunctuation"], ["Pf"]),
   (["po", "otherpunctuation"], ["Po"]),
   (["s", "symbol"], symbolCategories),
   (["sm", "mathsymbol"], ["Sm"]),
   (["sc", "currencysymbol"], ["Sc"]),
   (["sk", "modifiersymbol"], ["Sk"]),
   (["so", "othersymbol"], ["So", "Soa"]),
   (["z", "separator"], ["Zs", "Zl", "Zp"]),
   (["zs", "spaceseparator"], ["Zs"]),
   (["zl", "lineseparator"], ["Zl"]),
   (["zp", "paragraphseparator"], ["Zp"]),
   (["c", "other"], ["Cc", "Cf", "Cs", "Co", "Cn"]),
   (["cc", "control", "cntrl"], ["Cc"]),
   (["cf", "format"], ["Cf"]),
   (["co", "privateuse"], ["Co"]),
   (["cn", "unassigned"], ["Cn"])]

end BytePattern
