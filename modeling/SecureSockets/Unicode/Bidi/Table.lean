import SecureSockets.Unicode.Table

namespace SecureSockets.Unicode.Bidi

/-!
Bidirectional classes of the Unicode character database. A run's class is the place
of the class in the list of all classes; code points after the last run are written
from left to right.
-/

def rows : List Row := [
  ⟨0x0000, "jjbmblbmbnblojdlbmbncidhfibfbgbfcgkebggiBaagiBaaeigjblBajbgbieheibacibjcichcebi"⟩,
  ⟨0x00B5, "badibebafixabiBfabiRhacihaoicaoifajibariEikeaciiabifacibabiEgabiFkahkJwabicacibh"⟩,
  ⟨0x0590, "bbBtkbbbkbbckbbckbbbkCebgdcibcchbcbgbccilkBwcvkkdbhcddcbkDxchkbdbigkccckbiekccke"⟩,
  ⟨0x06FA, "xcbkBecBbkDnclkpcBrbjkcbeidbbkybekbbjkbbdkbbfkBrbdkebBwccdfcjkBqcykbdBgkCdabkba"⟩,
  ⟨0x093C, "bkeaikeabkdahkkackBdabkCgabkeaekiabkuackoachhabhcabkcackCfabkeackeackcadkdabkBea"⟩,
  ⟨0x0A70, "ckdabklackCfabkeafkbackeabkuacknabhiagkbabkCgabkcabkbaekiabkhacklackBeabkCjabkma"⟩,
  ⟨0x0BCD, "bkBlagibhbifabkdabkCdabkbadkfadkbaekhacklackuahicabkCgabkcabkgabkfackuackBcack"⟩,
  ⟨0x0D02, "CfackeaekiabkuackBdabkCuabkhadkbabkDmabkcahkeabhhaikDuabkcajklahkCvackBbabkbabk"⟩,
  ⟨0x0F38, "babkeiBzaokbafkbackfalkbaBkkjabkDyaekbagkbackcackzackeadkqaeknabkcackgabkpabk"⟩,
  ⟨0x109E, "BBbadkBwakiDyabiYpabnBaaciEnadkBdackBeackBeackCmackbahkiabkcalkhabhbabksakigali"⟩,
  ⟨0x180B, "dkbjbkEnackBiabkEoadkeackjabkgadkeabidaciFwaBiixackcabkCgabkbahkbabkbabkcaikgakk"⟩,
  ⟨0x1A7D, "cabkBwaBukcamkuaekBwabkbafkbabkfabkBoajkmackBgaekcackbadkCeabkbackdabkbadkCgaik"⟩,
  ⟨0x1C34, "cackFwadkbankbahkeabkgabkdackHqaCmkRdabibadiladinadinadinacibalndjbabbyibnblbobq"⟩,
  ⟨0x202C, "bsbpbrbgfhpibgBaibngjbtbubvbwgjbedagecfdibakecfdiraBwhBhkpacibaeibacikabibadifa"⟩,
  ⟨0x211E, "gibabibabibabieabhlacieafifaeicaqiBpadieaFaibfbhLeiCraBaibaFpizalivaBoiueDaaRii"⟩,
  ⟨0x26AC, "baNbiJwaYeicaBgibaEbiIvagieadkhahiExabkDsaBgkDqiBiaBaibaDlimaIgiBaamieabneidazi"⟩,
  ⟨0x3021, "jaekcabifacifadiDlackcidabiDmabiHoaBkiCfaciBxaqiBcadiByapimaeiGlaeiDvaciBfabi"⟩,
  ⟨0x3400, "JToaCmiBGUiaCdiMoadiDraekbikkciBeackDcackoaBiiDyabiErabkdabkeabkzackbaeibklach"⟩,
  ⟨0xA83A, "CgaeiCyackBaasknabkBmaikzalkBuadkBwabkcaekcackBnabkCpagkcackcackmabkiabkBvabkBza"⟩,
  ⟨0xAAB0, "bkbadkcackfackbabkBqackiabkElaciErabkcabkeabkBDZrabbbkkbbfBmbTacsiExcbiBgjncdiqk"⟩,
  ⟨0xFE10, "kigaqkBgibgbibgbabibgjibhcicfdibabichbieaFncbjbacidhfibfbgbfcgkebggiBaagiBaali"⟩,
  ⟨0xFF66, "EsachdichbahibajjficjJxabiCkaCzidanidabiDoabkIsabkBbeEsafkBSnaLbbbiIrbdkbbckfbek"⟩,
  ⟨0x10A10, "BobdkebbkGjbckDebhiRgbBkcekickdgcBpbfkJibBfdBsbcktbCgcckbcdkBwbwclkBfcsbekEsbba"⟩,
  ⟨0x11001, "bkCcapklauikabkcackkadkBxaekcackhabkCjadkBkafkbaikCkabkmackCaajkkaekcabkDradkca"⟩,
  ⟨0x11234, "bkbackgabkcabkGbabkdaikvackCfackdabkBlahkdafkCsagknadkbabkoackDhaikcadkbabkxabk"⟩,
  ⟨0x1145F, "DgagkbabkeackbackJeaekgackbackBbackDhaikcabkbackBfaniCkabkbabkcagkbabkDxadkcaek"⟩,
  ⟨0x11726, "bafkJzajkbackJwackbabkeabkFoaekcackeabkBgakkBoagkcaekiabkjagkcadkBuankbackHqabk"⟩,
  ⟨0x11B61, "badkbabkHtahkbagkbabkDeawkcahkbackbackEsagkdabkbackbahkbabkCuackdabkbabkNjackla"⟩,
  ⟨0x11F00, "ckCaafkfabkbabkxabkEsaiiehriHRyabkgapkQYyamkdadkDSaafkChahkBOiabkClaekDbabibabk"⟩,
  ⟨0x16FE5, "BDBkackbaejGYuaBukcaxkUyadkjaijikcahkBeaekChacivaCoidkbiHeaDjiBIqabiCfabiCfabi"⟩,
  ⟨0x1D750, "CfabiCfabikaByeTsaCdkeaBykiabkoabkwafkbapkCAiahkbarkcahkbackbafkDwabkGeahkOlabk"⟩,
  ⟨0x1E2AF, "CjaekpabhSyaekJuackJjabkcabkhackfabkKgaIabhkEfbhkBEzbDccCmbDccGubJgcciocJwbBsiea"⟩,
  ⟨0x1F030, "DwimapicapibapibaBlikalefiBfabiCgagiCjabiGwagiFyaBLwiearidanidaEpieaDrigamieabi"⟩,
  ⟨0x1F7F1, "pamieaCeiiakigaBoiiaBeicaciDaaNcimaoicanidajihaBuibahiiaoieajihajihaFribaCdiBla"⟩,
  ⟨0x1FBF0, "keBNoacjDSYoacjDSYoacjDSYoacjDSYoacjDSYoacjDSYoacjDSYoacjDSYoacjDSYoacjDSYoacj"⟩,
  ⟨0xC0000, "DSYoacjDSYoaJyjJgkFImjDMXaacjDSYoacjDSYoacj"⟩]

end SecureSockets.Unicode.Bidi
