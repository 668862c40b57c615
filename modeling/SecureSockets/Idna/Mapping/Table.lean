import SecureSockets.Unicode.Table

namespace SecureSockets.Idna.Mapping

/-!
The mapping table of UTS #46, version 17.0, read without transitional processing.
Statuses are numbered: 0 disallowed, 1 valid, 2 ignored, 3 mapped.
-/

/-- Runs of code points of one status; all later code points are disallowed. -/
def statusRows : List Unicode.Row := [
  ⟨0x0000, "CnbBadBlbBgabdhbbdbbbdcbbcbbbdcbedcbddbbddbbxdbbhdBhbbdbbbdbbbdbbbdbbbdbbbdbbbd"⟩,
  ⟨0x010D, "bbbdbbbdbbbdbbbdbbbdbbbdbbbdbbbdbbbdbbbdbbbdbbbdbbbdbbbdbbbdbbbdbbbdbbbdbbddbbbd"⟩,
  ⟨0x0137, "cbbdbbbdbbbdbbddbbbdbbbdbbbdbbcdbbbdbbbdbbbdbbbdbbbdbbbdbbbdbbbdbbbdbbbdbbbdbbbd"⟩,
  ⟨0x0163, "bbbdbbbdbbbdbbbdbbbdbbbdbbbdbbbdbbbdbbbdbbcdbbbdbbbdbbbdbbcdbbbdbbcdbbddcbedbbcd"⟩,
  ⟨0x0195, "bbdddbcdbbcdbbbdbbbdbbcdbbbdcbbdbbcdbbddbbbdbbcddbbdhbkdbbbdbbbdbbbdbbbdbbbdbbbd"⟩,
  ⟨0x01DA, "bbbdcbbdbbbdbbbdbbbdbbbdbbbdbbbdbbbdbbbdcbedbbddbbbdbbbdbbbdbbbdbbbdbbbdbbbdbbbd"⟩,
  ⟨0x0209, "bbbdbbbdbbbdbbbdbbbdbbbdbbbdbbbdbbbdbbbdbbbdbbbdbbbdbbbdbbbdbbbdbbbdbbbdbbbdbbbd"⟩,
  ⟨0x0231, "bbbdhbcdbbcdcbbdbbedbbbdbbbdbbbdbbbdDtbjdBfbgdcbfdDnbcdbbddjbbcBgbbdbbbdbbbdbbbd"⟩,
  ⟨0x0377, "bbcabddbcdeahdbabdbacdbbrdbajdBjbidbbbdbbbdbbbdbbbdbbbdbbbdbbbdbbbdbbbdbbbdbbbd"⟩,
  ⟨0x03ED, "bbbdbbddbbcdbbbdbbcdcbBzdBwbbdbbbdbbbdbbbdbbbdbbbdbbbdbbbdbbbdbbbdbbbdbbbdbbbdbb"⟩,
  ⟨0x047A, "bdbbbdbbbdbbbdjbbdbbbdbbbdbbbdbbbdbbbdbbbdbbbdbbbdbbbdbbbdbbbdbbbdbbbdbbbdbbbdbb"⟩,
  ⟨0x04AA, "bdbbbdbbbdbbbdbbbdbbbdbbbdbbbdbbbdbbbdbbbdbbcdbbbdbbbdbbbdbbbdbbbdbbbdcbbdbbbdbb"⟩,
  ⟨0x04D4, "bdbbbdbbbdbbbdbbbdbbbdbbbdbbbdbbbdbbbdbbbdbbbdbbbdbbbdbbbdbbbdbbbdbbbdbbbdbbbdbb"⟩,
  ⟨0x04FC, "bdbbbdbbbdbbbdbbbdbbbdbbbdbbbdbbbdbbbdbbbdbbbdbbbdbbbdbbbdbbbdbbbdbbbdbbbdbbbdbb"⟩,
  ⟨0x0524, "bdbbbdbbbdbbbdbbbdbbbdbbbaBmdcaBubbddbcadbbaCdbiaBbbeagbrawbbaDkbedDwbbaBwbcaChb"⟩,
  ⟨0x074B, "caDxboaChbcaBxbcapbbaBcbcabbbalbfaBgbhaCxbbaEnbidBkbbaibcacbcawbbahbbabbdaebcajb"⟩,
  ⟨0x09C5, "cacbcaebiabbeacdbabdebcazbcadbbagbeacbcawbbahbbabbbdbabbbdbacbcabbbafbeacbcadbda"⟩,
  ⟨0x0A51, "bbhaddbbbabdharbkadbbajbbadbbawbbahbbacbbafbcakbbadbbadbcabbpaebcambhahbbadbbaib"⟩,
  ⟨0x0B0D, "cacbcawbbahbbacbbafbcajbcacbcadbhadbeacdbafbcasbkacbbagbdadbbaebdacbbabbbacbdacb"⟩,
  ⟨0x0BA5, "dadbdambeafbdadbbaebcabbgabboavbfanbbadbbaxbbaqbcajbbadbbaebhacbbadbbacbcaebcakb"⟩,
  ⟨0x0C70, "hawbbadbbaxbbakbbafbcajbbadbbaebhacbfadbbaebcakbbadbmanbbadbbaBzbbadbbagbeaqbca"⟩,
  ⟨0x0D66, "BabbadbbasbdaybbajbbabbcahbdabbeagbbabbbaibgakbcadbmaBybbdhbeaBdbBlacbbabbbafbba"⟩,
  ⟨0x0E8C, "ybbabbbambbdkbcafbbabbbahbbakbcacdcbBgambbdCcbbdebbaebbdebbdebbdebbdmbbddbeacbbd"⟩,
  ⟨0x0F74, "bbfdhbbdrbbdebbaebbdebbdebbdebbdmbbddbbapbbanbBlaGebBmdbabdfabdcaBsbbdDubccIybba"⟩,
  ⟨0x124A, "ebcahbbabbbaebcaBpbbaebcaBhbbaebcahbbabbbaebcapbbaCfbbaebcaCpbcaBgbdaBabgaDibca"⟩,
  ⟨0x13F8, "gdcaYqbbaBcbdaDlbhawbjaybjaubmanbbadbbacbmaCabccBobcakbgakbgalbfckbgaDlbhaBrbfa"⟩,
  ⟨0x18B0, "CsbkaBfbbambeambeabbdaBqbcafblaBsbeaBabgalbdaCkbcaCnbbaBdbcalbgakbgaobcaBubcamb"⟩,
  ⟨0x1AEC, "uaCzbbaGkbiaCibdapbdaBzbkdbbfaBrdcaddibiaBrbfaBsbddbbldbbsdbbBcdnbbdBibBldCmbbd"⟩,
  ⟨0x1E01, "bbbdbbbdbbbdbbbdbbbdbbbdbbbdbbbdbbbdbbbdbbbdbbbdbbbdbbbdbbbdbbbdbbbdbbbdbbbdbbbd"⟩,
  ⟨0x1E29, "bbbdbbbdbbbdbbbdbbbdbbbdbbbdbbbdbbbdbbbdbbbdbbbdbbbdbbbdbbbdbbbdbbbdbbbdbbbdbbbd"⟩,
  ⟨0x1E51, "bbbdbbbdbbbdbbbdbbbdbbbdbbbdbbbdbbbdbbbdbbbdbbbdbbbdbbbdbbbdbbbdbbbdbbbdbbbdbbbd"⟩,
  ⟨0x1E79, "bbbdbbbdbbbdbbbdbbbdbbbdbbbdbbbdbbbdbbbdbbbdbbbdbbbdbbbdfbcdcbbdbbbdbbbdbbbdbbbd"⟩,
  ⟨0x1EA7, "bbbdbbbdbbbdbbbdbbbdbbbdbbbdbbbdbbbdbbbdbbbdbbbdbbbdbbbdbbbdbbbdbbbdbbbdbbbdbbbd"⟩,
  ⟨0x1ECF, "bbbdbbbdbbbdbbbdbbbdbbbdbbbdbbbdbbbdbbbdbbbdbbbdbbbdbbbdbbbdbbbdbbbdbbbdbbbdbbbd"⟩,
  ⟨0x1EF7, "bbbdbbbdbbbdbbbdjbidgbcagdcaibidibidgbcagdcaibbabdbabdbabdbabdibidbbbdbbbdbbbdbb"⟩,
  ⟨0x1F77, "bdbbbdbbbdbbbdcaBwdcbddbabbodbabbjddbbdcacbedbadddbbdebidcaddbabbidbaldbccbcabb"⟩,
  ⟨0x2011, "bdfbbdmbdabbhabddbcdbbcdebbdbbbdibddnbbdhbbdfcfagccdcaBbdbanddaibbdzboaBhbpaedbb"⟩,
  ⟨0x2105, "ddbbldbbcdcbfdcbddbbbdbbbdbbbdbbedbbldbbgdebfdgbBwddbbdfbbdcbeaGabcdbbcdJobcdJvb"⟩,
  ⟨0x242A, "walbvaBoduaDbdBYnbbdDzbddDxbbdFvbcaFibBwdBwbbdbbddcbbdbbbdbbbdbbedbbbdcbbdgbfdbb"⟩,
  ⟨0x2C82, "bdbbbdbbbdbbbdbbbdbbbdbbbdbbbdbbbdbbbdbbbdbbbdbbbdbbbdbbbdbbbdbbbdbbbdbbbdbbbdbb"⟩,
  ⟨0x2CAA, "bdbbbdbbbdbbbdbbbdbbbdbbbdbbbdbbbdbbbdbbbdbbbdbbbdbbbdbbbdbbbdbbbdbbbdbbbdbbbdbb"⟩,
  ⟨0x2CD2, "bdbbbdbbbdbbbdbbbdbbbdbbbdbbbdbbbdibbdbbbdebbdbbfaBtbbabbfabbcaCebhabdbboaybjahb"⟩,
  ⟨0x2DA7, "bahbbahbbahbbahbbahbbahbbahbbaEwbBiaBabbaebbdDfbbdmaIgdBqabdbbbdBzbbdbbddfbbaDib"⟩,
  ⟨0x3097, "cacbcdcbbdDrbbdfaBrbbaBzdbcBqdbacbodCsbkaqbBfdbaBodibBvdbbMkdbaedbaqdbaBndBQQfb"⟩,
  ⟨0xA48D, "daCdbjaNkbuabdbbbdbbbdbbbdbbbdbbbdbbbdbbbdbbbdbbbdbbbdbbbdbbbdbbbdbbbdbbbdbbbdbb"⟩,
  ⟨0xA662, "bdbbbdbbbdbbbdbbbdbbbdtbbdbbbdbbbdbbbdbbbdbbbdbbbdbbbdbbbdbbbdbbbdbbbdbbbdbbbdbb"⟩,
  ⟨0xA69C, "cdDmbiaBibbdbbbdbbbdbbbdbbbdbbbdbbbddbbdbbbdbbbdbbbdbbbdbbbdbbbdbbbdbbbdbbbdbbbd"⟩,
  ⟨0xA747, "bbbdbbbdbbbdbbbdbbbdbbbdbbbdbbbdbbbdbbbdbbbdbbbdbbbdbbbdbbbdbbbdbbbdbbbdbbbdbbbd"⟩,
  ⟨0xA76F, "bbbdibbdbbbdbbcdbbbdbbbdbbbdbbbdebbdbbbdcbbdbbbddbbdbbbdbbbdbbbdbbbdbbbdbbbdbbbd"⟩,
  ⟨0xA7A5, "bbbdbbbdbbfdbbfdbbbdbbbdbbbdbbbdbbbdbbbdbbbdbbedbbbdbbcdbbbdbbbdbbbdbbbdbbbdbbbd"⟩,
  ⟨0xA7D9, "bbbdbbbduafdcbcdBzbdakbgaCebiaCsbiambgaEmblaBebdaDabbalbeaBhbbaCdbjaobcakbcaDzb"⟩,
  ⟨0xAAC3, "yaBcbkagbcagbcagbjahbbahbbaBsbedjbbdcbeaDcdBubcakbgaQNsbmaxbeaBxbMNcaKkdcbbdbbbd"⟩,
  ⟨0xFA13, "cbkdbbbdbbbdcbcddbCqdcaEcdBmahdmafdfabdbbydbafdbabdbacdbacdbaEedBhbNzdsbCmdcbCcd"⟩,
  ⟨0xFDC8, "ibBganddbqccdbagdhaqbbaudcbldcatdbaedeaddbbbdbaFfdcabcbaGddbcBeddagdcagdcagdcadd"⟩,
  ⟨0xFFDD, "dahdbahdrambbaBabbatbbacbbapbcaobBiaEtbfadbeaBtbdaDkbbanbdabbBvaBubFaaBdbdaBxbpa"⟩,
  ⟨0x102E0, "BcbeaBkbjaBebfaBrbfaBebbaBlbeaobBqaBodEobcakbgaBkdeaBkbeaBobiaCablabbldbapdbahd"⟩,
  ⟨0x10593, "bacdbalbbapbbahbbacbdaCabmaLzbjawbkaibyabbfdbaBqdbajdCragbcabbbaBsbbacbdabbcaxb"⟩,
  ⟨0x10856, "baCubiajbBwatbbacbfaBhbdaBbbfaBbbBmaCebeaubcaBybbacbfaibbadbbaBdbcadbeakbhajbha"⟩,
  ⟨0x10A60, "CmbBgaBnbeambjaCcbdaBdbcaBbbfaBabhaebmahbDcaCvbCdaBzdnaBzbhaBubiakbgaqbwddaBdbia"⟩,
  ⟨0x10D8E, "cbIaaBfbbaBqbbadbcacbqagbiajbBhaBubiaBqbwaBabBmaBcbuaxbjaDabeaBkbjaCkbbafbnazbha"⟩,
  ⟨0x110F0, "kbgaCbbbasbiaBnbjaDsbbaublasbbaBvbCkahbbabbbaebbapbbalbgaChbfakbgaebbaibcacbcawb"⟩,
  ⟨0x11329, "bahbbacbbafbbakbcacbcadbcabbgabbfahbcahbdafblakbbabbcabbbaBmbbakbbabbcabbbaebba"⟩,
  ⟨0x113CC, "kbbacbiacbBdaDobbafbBeaCubiakbGkaCcbcaBmbBiaCrblakbganbtaCgbgakbgaubBcaBbbcapbea"⟩,
  ⟨0x11730, "xbHdaCibDwaBgdBzbmaibcabbcaibbacbbaBebbacbcambjakbCsaibcaBubcalbBbaCubiaDfbnaCvb"⟩,
  ⟨0x11AF9, "hakbDiaibDkaBiboakbgajbbaBtbbaobkaBdbdaBgbcawbbaobCvahbbacbbaBsbdabbbacbbajbiakb"⟩,
  ⟨0x11D5A, "gagbbacbbaBlbbacbbagbhakbgaBsbeakbJmazbharbbaBpbdaBdbDhabbpaBybnaBJnbDyaEhbbafb"⟩,
  ⟨0x12475, "laHobDXkaDvbnaBPgbqawbkaFXrbfaWlbKDdaCgbCOsaVxbhaBfbbakbeaDdbbakbgaBebcagbkaCsb"⟩,
  ⟨0x16B46, "kakbbahbbavbfatbQqaCgbHqaBgdChbfazdcazbBsaCxbeaCfbharbCmafblahbjaKXybBpaBgbDta"⟩,
  ⟨0x18D80, "ElbMWraebbahbbacbbaLfbpabbBdadbcabboaebiaPgbDKuaEdbfanbdajbhakbcaebecFVgaIgbBkd"⟩,
  ⟨0x1CCFA, "dbdaQubgaxbparbpaBubcaxbjaEmbCiaJmbkaBnbcaCbbhdobicCmbgdBqbvaCsbEsaubmaubmaDjbja"⟩,
  ⟨0x1D360, "zbFfaDhdbaCtdbacdcabdcacdcaedbamdbabdbahdbaCndbaedcaidbahdbaBcdbaedbafdbabddahd"⟩,
  ⟨0x1D551, "baNcdcaLgdcaBydZcbpafbbapbBQmaBfbgagbIfahbbarbcahbbacbbafbfaCkdBhabbEiaBtbdaobca"⟩,
  ⟨0x1E140, "kbeacbMiaBfbraCgbfabbRwaBqbIgaBrbeabbHkaBfbbawbiacbIqahbbaebbacbbapbbaHpbcaqbBpa"⟩,
  ⟨0x1E900, "BidBqbeakbeacbBEfaCqbCyaCjbHmaedbaBbdbacdbabdcabdbakdbaedbabdbabdgabdeabdbabdba"⟩,
  ⟨0x1EE4B, "bdbaddbacdbabdcabdbabdbabdbabdbabdbacdbabdcaedbahdbaedbaedbabdbakdbardfaddbafdba"⟩,
  ⟨0x1EEAB, "rdCaacbKkaBsbeaDwbmapbcapbbapbbaBlblakdfbBfdbbBgdBabddBjbbdBdbCeaBabddnaBsdeajd"⟩,
  ⟨0x1F249, "hacdoagbFyaBLxbdarbdanbdaIkbgambeabbpambeaCebiakbgaBobiaBebcambeacboajbBnaNgbia"⟩,
  ⟨0x1FA60, "obcanbdalbdaCfbbabbeaqbcambeakbhaFrbbaDobkdbbBNpaCLFcbBgaGMobcaIOcbcaLBlbpaXyb"⟩,
  ⟨0x2EE5E, "DQwaUwdCFyaHHzbfaMOobBOGXyaJgc"⟩]

def replacementRows : List Unicode.Row := [
  ⟨0x0041, "abDtabDuabDvabDwabDxabDyabDzabEaabEbabEcabEdabEeabEfabEgabEhabEiabEjabEkabElabEm"⟩,
  ⟨0x0055, "abEnabEoabEpabEqabErabEsCrbBghcBgBDwbbDtecBgBDscbByabBzacBgBDpabBKuccBgBFbabBx"⟩,
  ⟨0x00BA, "abEhbdBxMFsCaadBxMFsByadBzMFsCabbIqabIrabIsabItabIuabIvabIwabIxabIyabIzabJaabJb"⟩,
  ⟨0x00CC, "abJcabJdabJeabJfabJgabJhabJiabJjabJkabJlabJmbbJoabJpabJqabJrabJsabJtabJuBhbJx"⟩,
  ⟨0x0102, "abJzbbKbbbKdbbKfbbKhbbKjbbKlbbKnbbKpbbKrbbKtbbKvbbKxbbKzbbLbbbLdbbLfbbLhbbLjbbLl"⟩,
  ⟨0x012A, "abLnbbLpbbLrbcEbBDvbcEbEcacEbEcabLxbbLzcbMcbbMebbMgbcEeHbacEeHbabMkbbMmbbMobbMq"⟩,
  ⟨0x0149, "acBAyEgabMtbbMvbbMxbbMzbbNbbbNdbbNfbbNhbbNjbbNlbbNnbbNpbbNrbbNtbbNvbbNxbbNzbbOb"⟩,
  ⟨0x016E, "abOdbbOfbbOhbbOjbbOlbbJvabOobbOqbbOsbbElbbWxabOxbbOzbbWyabPcbbXaabXbabPgcbSjabXd"⟩,
  ⟨0x0190, "abXfabPmbbXkabXnbbXtabXsabPtdbXzabYcbbYfabQbbbQdbbQfbbYqabQibbYtcbQnbbYyabQqbbZa"⟩,
  ⟨0x01B2, "abZbabQubbQwbbZiabQzdbRdhcDwOsacDwOsacDwOsacEeEcacEeEcacEeEcacEgEcacEgEcacEgEc"⟩,
  ⟨0x01CD, "abRubbRwbbRybbSabbScbbSebbSgbbSicbSlbbSnbbSpbbSrbbStbbSvbbSxbbSzbbTbccDwEsacDwEs"⟩,
  ⟨0x01F3, "acDwEsabThbbPpabRfabTlbbTnbbTpbbTrbbTtbbTvbbTxbbTzbbUbbbUdbbUfbbUhbbUjbbUlbbUn"⟩,
  ⟨0x0216, "abUpbbUrbbUtbbUvbbUxbbPybbVbbbVdbbVfbbVhbbVjbbVlbbVnbbVpbbVrhbQVdabWabbPuabQVe"⟩,
  ⟨0x0241, "abWgbbOuabYzabZcabWlbbWnbbWpbbWrbbWtDtbEaabXqabEcabEkabYjabYlabYrabEpabEr"⟩,
  ⟨0x02D8, "acBgBDuacBgBDvacBgBDyacBgBFcacBgBDracBgBDzcbXnabEeabElabEqabZlDnbBDoabBDpbbBEh"⟩,
  ⟨0x0344, "acBDwBDpabBKrBqbBHxbbBHzbbBAvbbBIddcBgBKrdbChabBMxecBgBDpadBgBDwBDpabBKeabHb"⟩,
  ⟨0x0388, "abBKfabBKgabBKhbbBLkbbBLlabBLmbbBKjabBKkabBKlabBKmabBKnabBKoabBKpabBKqabBKrabBKs"⟩,
  ⟨0x039B, "abBKtabBKuabBKvabBKwabBKxabBKyabBKzbbBLbabBLcabBLdabBLeabBLfabBLgabBLhabBLiabBLj"⟩,
  ⟨0x03CF, "abBLvabBKkabBKqabBLdabBLlabBLjabBLeabBKybbBLxbbBLzbbBMbbbBMdbbBMfbbBMhbbBMjbbBMl"⟩,
  ⟨0x03E8, "abBMnbbBMpbbBMrbbBMtbbBKsabBKzabBLbbbBKqabBKnbbBNcbbBLbabBNfcbBIhabBIiabBIjabBQm"⟩,
  ⟨0x0401, "abBQnabBQoabBQpabBQqabBQrabBQsabBQtabBQuabBQvabBQwabBQxabBQyabBQzabBRaabBRbabBPg"⟩,
  ⟨0x0411, "abBPhabBPiabBPjabBPkabBPlabBPmabBPnabBPoabBPpabBPqabBPrabBPsabBPtabBPuabBPvabBPw"⟩,
  ⟨0x0421, "abBPxabBPyabBPzabBQaabBQbabBQcabBQdabBQeabBQfabBQgabBQhabBQiabBQjabBQkabBQl"⟩,
  ⟨0x0460, "abBRdbbBRfbbBRhbbBRjbbBRlbbBRnbbBRpbbBRrbbBRtbbBRvbbBRxbbBRzbbBSbbbBSdbbBSfbbBSh"⟩,
  ⟨0x0480, "abBSjjbBStbbBSvbbBSxbbBSzbbBTbbbBTdbbBTfbbBThbbBTjbbBTlbbBTnbbBTpbbBTrbbBTtbbBTv"⟩,
  ⟨0x04A8, "abBTxbbBTzbbBUbbbBUdbbBUfbbBUhbbBUjbbBUlbbBUnbbBUpbbBUrbbBUtbbBVjabBUwbbBUybbBVa"⟩,
  ⟨0x04C7, "abBVcbbBVebbBVgbbBVicbBVlbbBVnbbBVpbbBVrbbBVtbbBVvbbBVxbbBVzbbBWbbbBWdbbBWfbbBWh"⟩,
  ⟨0x04E8, "abBWjbbBWlbbBWnbbBWpbbBWrbbBWtbbBWvbbBWxbbBWzbbBXbbbBXdbbBXfbbBXhbbBXjbbBXlbbBXn"⟩,
  ⟨0x0508, "abBXpbbBXrbbBXtbbBXvbbBXxbbBXzbbBYbbbBYdbbBYfbbBYhbbBYjbbBYlbbBYnbbBYpbbBYrbbBYt"⟩,
  ⟨0x0528, "abBYvbbBYxbbBYzbbBZbcbCAzabCBaabCBbabCBcabCBdabCBeabCBfabCBgabCBhabCBiabCBjabCBk"⟩,
  ⟨0x053D, "abCBlabCBmabCBnabCBoabCBpabCBqabCBrabCBsabCBtabCBuabCBvabCBwabCBxabCByabCBzabCCa"⟩,
  ⟨0x054D, "abCCbabCCcabCCdabCCeabCCfabCCgabCChabCCiabCCjabCCkBwcCBdCCgJdcCIpCLoacCJwCLo"⟩,
  ⟨0x0677, "acCOtCLoacCJyCLoBChcDLlDMyacDLmDMyacDLnDMyacDLsDMyacDLxDMyacDLyDMyacDMhDMy"⟩,
  ⟨0x095F, "acDMlDMyEucDQvDRwacDQwDRwbcDRjDRwDfcDWkDWuccDWqDWuBicDViDWuacDVjDWuacDVoDWu"⟩,
  ⟨0x0A5E, "acDWdDWuJtcEFpEGqacEFqEGqBBxcFKvFJuExcFPtFOsBocFOlFNtacFOlFObBubFSdCccFUgFYt"⟩,
  ⟨0x0F4D, "acFUqFYtecFUvFYtecFVaFYtecFVfFYtmcFUeFYrjcFWbFWcbcFWbFWeacFYoFWqadFYoFWbFWq"⟩,
  ⟨0x0F78, "acFYpFWqadFYpFWbFWqhcFWbFWqrcFXiFYtjcFXsFYtecFXxFYtecFYcFYtecFYhFYtmcFXgFYr"⟩,
  ⟨0x10A0, "abRBcabRBdabRBeabRBfabRBgabRBhabRBiabRBjabRBkabRBlabRBmabRBnabRBoabRBpabRBqabRBr"⟩,
  ⟨0x10B0, "abRBsabRBtabRBuabRBvabRBwabRBxabRByabRBzabRCaabRCbabRCcabRCdabRCeabRCfabRCgabRCh"⟩,
  ⟨0x10C0, "abRCiabRCjabRCkabRClabRCmabRCnbbRCpfbRCvBubGKaBDjbHOiabHOjabHOkabHOlabHOmabHOn"⟩,
  ⟨0x1C80, "abBPiabBPkabBPuabBPxabBPyabBPyabBQgabBRfabCKZjabKVagbGJoabGJpabGJqabGJrabGJs"⟩,
  ⟨0x1C95, "abGJtabGJuabGJvabGJwabGJxabGJyabGJzabGKaabGKbabGKcabGKdabGKeabGKfabGKgabGKhabGKi"⟩,
  ⟨0x1CA5, "abGKjabGKkabGKlabGKmabGKnabGKoabGKpabGKqabGKrabGKsabGKtabGKuabGKvabGKwabGKxabGKy"⟩,
  ⟨0x1CB5, "abGKzabGLaabGLbabGLcabGLdabGLecbGLhabGLiabGLjEebDtabIwabDubbDwabDxabSjabDzabEa"⟩,
  ⟨0x1D35, "abEbabEcabEdabEeabEfabEgbbEhabVbabEiabEkabEmabEnabEpabDtabWuabWvabKZqabDuabDw"⟩,
  ⟨0x1D49, "abDxabXdabXfabXgabDzbbEdabEfabMtabEhabWyabLAkabLAlabEiabEmabEnabLArabXzabEoabLAz"⟩,
  ⟨0x1D5D, "abBKkabBKlabBKmabBLeabBLfabEbabEkabEnabEoabBKkabBKlabBKzabBLeabBLfnbBPtBibWwabDv"⟩,
  ⟨0x1D9D, "abWzabJgabXgabDyabXjabXlabXpabXsabXtabXuabLEhabZtabXxabLErabZvabYbabYaabYcabYd"⟩,
  ⟨0x1DB0, "abYeabYfabYiabYsabYtabQlabYzabZaabLAqabZbabZcabEsabZgabZhabZiabBKqCmbLJlbbLJn"⟩,
  ⟨0x1E04, "abLJpbbLJrbbLJtbbLJvbbLJxbbLJzbbLKbbbLKdbbLKfbbLKhbbLKjbbLKlbbLKnbbLKpbbLKrbbLKt"⟩,
  ⟨0x1E24, "abLKvbbLKxbbLKzbbLLbbbLLdbbLLfbbLLhbbLLjbbLLlbbLLnbbLLpbbLLrbbLLtbbLLvbbLLxbbLLz"⟩,
  ⟨0x1E44, "abLMbbbLMdbbLMfbbLMhbbLMjbbLMlbbLMnbbLMpbbLMrbbLMtbbLMvbbLMxbbLMzbbLNbbbLNdbbLNf"⟩,
  ⟨0x1E64, "abLNhbbLNjbbLNlbbLNnbbLNpbbLNrbbLNtbbLNvbbLNxbbLNzbbLObbbLOdbbLOfbbLOhbbLOjbbLOl"⟩,
  ⟨0x1E84, "abLOnbbLOpbbLOrbbLOtbbLOvbbLOxbbLOzbbLPbbbLPdfcDtBBaabLNdcbIpbbLPpbbLPrbbLPt"⟩,
  ⟨0x1EA6, "abLPvbbLPxbbLPzbbLQbbbLQdbbLQfbbLQhbbLQjbbLQlbbLQnbbLQpbbLQrbbLQtbbLQvbbLQxbbLQz"⟩,
  ⟨0x1EC6, "abLRbbbLRdbbLRfbbLRhbbLRjbbLRlbbLRnbbLRpbbLRrbbLRtbbLRvbbLRxbbLRzbbLSbbbLSdbbLSf"⟩,
  ⟨0x1EE6, "abLShbbLSjbbLSlbbLSnbbLSpbbLSrbbLStbbLSvbbLSxbbLSzbbLTbbbLTdbbLTfjbLTgabLThabLTi"⟩,
  ⟨0x1F0B, "abLTjabLTkabLTlabLTmabLTnibLTwabLTxabLTyabLTzabLUaabLUbkbLUmabLUnabLUoabLUpabLUq"⟩,
  ⟨0x1F2D, "abLUrabLUsabLUtibLVcabLVdabLVeabLVfabLVgabLVhabLViabLVjibLVsabLVtabLVuabLVvabLVw"⟩,
  ⟨0x1F4D, "abLVxlbLWjbbLWlbbLWnbbLWpibLWyabLWzabLXaabLXbabLXcabLXdabLXeabLXfbbBKebbBKfbbBKg"⟩,
  ⟨0x1F77, "abBKhbbBLkbbBLlbbBLmccLTgBKracLThBKracLTiBKracLTjBKracLTkBKracLTlBKracLTmBKr"⟩,
  ⟨0x1F87, "acLTnBKracLTgBKracLThBKracLTiBKracLTjBKracLTkBKracLTlBKracLTmBKracLTnBKracLUmBKr"⟩,
  ⟨0x1F91, "acLUnBKracLUoBKracLUpBKracLUqBKracLUrBKracLUsBKracLUtBKracLUmBKracLUnBKracLUoBKr"⟩,
  ⟨0x1F9B, "acLUpBKracLUqBKracLUrBKracLUsBKracLUtBKracLWyBKracLWzBKracLXaBKracLXbBKracLXcBKr"⟩,
  ⟨0x1FA5, "acLXdBKracLXeBKracLXfBKracLWyBKracLWzBKracLXaBKracLXbBKracLXcBKracLXdBKracLXeBKr"⟩,
  ⟨0x1FAF, "acLXfBKrccLXoBKracBKjBKracBKeBKrccMAgBKrabMAaabMAbabLXoabBKeacBKjBKracBgBEhabBKr"⟩,
  ⟨0x1FBF, "acBgBEhacBgBGcadBgBDwBGcacLXsBKracBKpBKracBKgBKrccMAwBKrabLXqabBKfabLXsabBKg"⟩,
  ⟨0x1FCC, "acBKpBKradBgBEhBDoadBgBEhBDpadBgBEhBGcdbBJcebMBgabMBhabLXuabBKhbdBgBEiBDo"⟩,
  ⟨0x1FDE, "adBgBEiBDpadBgBEiBGcdbBKiebMBwabMBxabLXyabBLlabMCbadBgBDwBDoadBgBDwBDpabDs"⟩,
  ⟨0x1FF2, "acLYaBKracBLhBKracBLmBKrccMCsBKrabLXwabBLkabLYaabBLmacBLhBKracBgBDpacBgBEibbBg"⟩,
  ⟨0x2001, "abBgabBgabBgabBgabBgabBgabBgabBgabBgabBggbMDsfcBgBFnxbBgdcMFaMFaadMFaMFaMFa"⟩,
  ⟨0x2036, "acMFdMFdadMFdMFdMFdecBhBhbcBgBDticClClacClBhacBhClneMFaMFaMFaMFahbBgqbBwabEbcbCa"⟩,
  ⟨0x2075, "abCbabCcabCdabCeabCfabBrabMXmabCjabBoabBpabEgabBwabBxabByabBzabCaabCbabCcabCd"⟩,
  ⟨0x2088, "abCeabCfabBrabMXmabCjabBoabBpbbDtabDxabEhabEqabXdabEaabEdabEeabEfabEgabEiabEl"⟩,
  ⟨0x209C, "abEmlcEkElDjdDtBvDvadDtBvElabDvacGuDvbdDvBvEhadDvBvEnabXfbcGuDyabDzabEaabEaabEa"⟩,
  ⟨0x210E, "abEaabLjabEbabEbabEeabEebbEgacEgEhcbEiabEjabEkabEkabEkccElEfadEmDxEeacEmEfbbEs"⟩,
  ⟨0x2126, "abBLhbbEsbbEdabIvabDuabDvbbDxabDxabDyabMPyabEfabEhabCFgabCFhabCFiabCFjabEb"⟩,
  ⟨0x213B, "adDyDtEqabBKyabBKlabBKlabBKyabMXlebDwabDwabDxabEbabEcgdBxMFsCdadBxMFsCf"⟩,
  ⟨0x2152, "aeBxMFsBxBwadBxMFsBzadByMFsBzadBxMFsCbadByMFsCbadBzMFsCbadCaMFsCbadBxMFsCc"⟩,
  ⟨0x215A, "adCbMFsCcadBxMFsCeadBzMFsCeadCbMFsCeadCdMFsCeacBxMFsabEbacEbEbadEbEbEbacEbEoabEo"⟩,
  ⟨0x2165, "acEoEbadEoEbEbaeEoEbEbEbacEbEqabEqacEqEbadEqEbEbabEeabDvabDwabEfabEbacEbEb"⟩,
  ⟨0x2172, "adEbEbEbacEbEoabEoacEoEbadEoEbEbaeEoEbEbEbacEbEqabEqacEqEbadEqEbEbabEeabDvabDw"⟩,
  ⟨0x217F, "abEfdbMSafdBwMFsBzGgcMYlMYladMYlMYlMYlbcMYoMYoadMYoMYoMYoJobSEyabSEzLxbBxabBy"⟩,
  ⟨0x2462, "abBzabCaabCbabCcabCdabCeabCfacBxBwacBxBxacBxByacBxBzacBxCaacBxCbacBxCcacBxCd"⟩,
  ⟨0x2471, "acBxCeacBxCfacByBwadBoBxBpadBoByBpadBoBzBpadBoCaBpadBoCbBpadBoCcBpadBoCdBp"⟩,
  ⟨0x247B, "adBoCeBpadBoCfBpaeBoBxBwBpaeBoBxBxBpaeBoBxByBpaeBoBxBzBpaeBoBxCaBpaeBoBxCbBp"⟩,
  ⟨0x2483, "aeBoBxCcBpaeBoBxCdBpaeBoBxCeBpaeBoBxCfBpaeBoByBwBpudBoDtBpadBoDuBpadBoDvBp"⟩,
  ⟨0x249F, "adBoDwBpadBoDxBpadBoDyBpadBoDzBpadBoEaBpadBoEbBpadBoEcBpadBoEdBpadBoEeBpadBoEfBp"⟩,
  ⟨0x24A9, "adBoEgBpadBoEhBpadBoEiBpadBoEjBpadBoEkBpadBoElBpadBoEmBpadBoEnBpadBoEoBpadBoEpBp"⟩,
  ⟨0x24B3, "adBoEqBpadBoErBpadBoEsBpabDtabDuabDvabDwabDxabDyabDzabEaabEbabEcabEdabEeabEfabEg"⟩,
  ⟨0x24C4, "abEhabEiabEjabEkabElabEmabEnabEoabEpabEqabErabEsabDtabDuabDvabDwabDxabDyabDzabEa"⟩,
  ⟨0x24D8, "abEbabEcabEdabEeabEfabEgabEhabEiabEjabEkabElabEmabEnabEoabEpabEqabErabEsabBw"⟩,
  ⟨0x2A0C, "aeMYlMYlMYlMYlDzdCgCgCjacCjCjadCjCjCjDxcQGbBFsLfbQTcabQTdabQTeabQTfabQTgabQTh"⟩,
  ⟨0x2C06, "abQTiabQTjabQTkabQTlabQTmabQTnabQToabQTpabQTqabQTrabQTsabQTtabQTuabQTvabQTwabQTx"⟩,
  ⟨0x2C16, "abQTyabQTzabQUaabQUbabQUcabQUdabQUeabQUfabQUgabQUhabQUiabQUjabQUkabQUlabQUmabQUn"⟩,
  ⟨0x2C26, "abQUoabQUpabQUqabQUrabQUsabQUtabQUuabQUvabQUwabQUxBwbQUzbbXvabLEjabYncbQVgbbQVi"⟩,
  ⟨0x2C6B, "abQVkbbWvabYbabWuabWwbbQVrcbQVugbEcabEoabWdabWeabQWfbbQWhbbQWjbbQWlbbQWnbbQWp"⟩,
  ⟨0x2C8C, "abQWrbbQWtbbQWvbbQWxbbQWzbbQXbbbQXdbbQXfbbQXhbbQXjbbQXlbbQXnbbQXpbbQXrbbQXtbbQXv"⟩,
  ⟨0x2CAC, "abQXxbbQXzbbQYbbbQYdbbQYfbbQYhbbQYjbbQYlbbQYnbbQYpbbQYrbbQYtbbQYvbbQYxbbQYzbbQZb"⟩,
  ⟨0x2CCC, "abQZdbbQZfbbQZhbbQZjbbQZlbbQZnbbQZpbbQZrbbQZtbbQZvbbQZxbbQZzibRAibbRAkebRAp"⟩,
  ⟨0x2D6F, "abREvLrbBOVlDfbCILrmbBDOaabBDPoabBDQcabBDQlabBDRlabBDTdabBDTkabBDUeabBDVeabBETz"⟩,
  ⟨0x2F0A, "abBEVlabBEVrabBEWoabBEXiabBEYdabBFAeabBFAzabBFBkabBFHjabBFKzabBFMbabBFMgabBFNk"⟩,
  ⟨0x2F17, "abBFNtabBFOuabBFPhabBFQgabBFSgabBFSyabBFTzabBGXbabBGZvabBHRnabBHSkabBHSsabBHTd"⟩,
  ⟨0x2F24, "abBHTvabBHWtabBIPcabBIQyabBIVoabBIWlabBIXeabBIYaabBJAcabBJAfabBJOdabBJOnabBJOz"⟩,
  ⟨0x2F31, "abBJPmabBJTyabBJUgabBJUlabBJYyabBJZiabBJZvabBKAdabBKCmabBKDdabBKDvabBKGxabBLDg"⟩,
  ⟨0x2F3E, "abBLFaabBLFvabBMIhabBMImabBMLrabBMMhabBMMuabBMNpabBMPcabBMPhabBMZoabBNAmabBNBs"⟩,
  ⟨0x2F4B, "abBOOuabBORiabBOSfabBOUlabBOVjabBOVsabBOVzabBOXzabBOYeabBOZkabBQOxabBRGcabBRGo"⟩,
  ⟨0x2F58, "abBRGtabBRGxabBRHfabBRHxabBRHzabBRLcabBRTkabBRTpabBSGqabBSHaabBSIyabBSJfabBSJo"⟩,
  ⟨0x2F65, "abBSJwabBSNjabBSNqabBSWkabBSWrabBSYoabBSZfabBTBaabBTKdabBTKkabBTLbabBTXqabBUCm"⟩,
  ⟨0x2F72, "abBUCsabBUJsabBUNbabBUOvabBVDjabBVImabBWEoabBWFpabBWHuabBWJtabBWMjabBWMuabBWNa"⟩,
  ⟨0x2F7F, "abBWOhabBWRfabBWRpabBXExabBXFeabBXFnabBXFwabBXGmabBXHbabBXHfabBXKgabBXKkabBXKq"⟩,
  ⟨0x2F8C, "abBYWjabBYXnabBZPoabBZQaabBZQxabCABuabCAChabCAFaabCAGuabCBCpabCBDeabCBDtabCBFc"⟩,
  ⟨0x2F99, "abCBGnabCBOeabCBOqabCBRfabCCAtabCCByabCCJzabCCKuabCCKzabCCTlabCDAnabCDFiabCDFo"⟩,
  ⟨0x2FA6, "abCDFtabCEPrabCEQaabCEWaabCFByabCFCbabCFDwabCFHxabCFIkabCFIoabCFIvabCFMpabCFNx"⟩,
  ⟨0x2FB3, "abCFOdabCFOrabCFVcabCFXbabCFXfabCGEgabCGEjabCGFcabCGOuabCGQqabCGQxabCGTpabCGTz"⟩,
  ⟨0x2FC0, "abCGUcabCGUmabCGVqabCHKvabCIAfabCIApabCICbabCICxabCIDfabCIDpabCIDtabCIFhabCIFl"⟩,
  ⟨0x2FCD, "abCIGcabCIGhabCIGuabCIHvabCIIkabCIIsabCIKzabCILoabCILsBqbBgbbBuBzbSFibbBFNt"⟩,
  ⟨0x3039, "abBFNwabBFNxDscBgSKnacBgSKoccSJwSJyDrcSLnSMiBxbGLkabGLlabGRyabGLmabGSaabGSbabGLn"⟩,
  ⟨0x3138, "abGLoabGLpabGSeabGSfabGSgabGShabGSiabGSjabGMkabGLqabGLrabGLsabGMrabGLtabGLuabGLv"⟩,
  ⟨0x3148, "abGLwabGLxabGLyabGLzabGMaabGMbabGMcabGPdabGPeabGPfabGPgabGPhabGPiabGPjabGPkabGPl"⟩,
  ⟨0x3158, "abGPmabGPnabGPoabGPpabGPqabGPrabGPsabGPtabGPuabGPvabGPwabGPxbbGMeabGMfabGTbabGTc"⟩,
  ⟨0x3169, "abGTgabGTiabGTnabGTrabGTtabGMmabGTxabGTzabGMnabGMoabGMqabGMsabGMtabGMxabGMzabGNb"⟩,
  ⟨0x3179, "abGNcabGNdabGNeabGNfabGNiabGNmabGNwabGOdabGOiabGUrabGUsabGOtabGOuabGOvabGQmabGQn"⟩,
  ⟨0x3189, "abGQqabGQzabGRaabGRcabGRmabGRpdbBDOaabBDTkabBDOjabBGXfabBDOkabBDPtabBDOlabBSJy"⟩,
  ⟨0x319A, "abBDRlabBDOzabBDObabBHTxabBHAmabBDVeDsdBoGLkBpadBoGLmBpadBoGLnBpadBoGLpBp"⟩,
  ⟨0x3204, "adBoGLqBpadBoGLrBpadBoGLtBpadBoGLvBpadBoGLwBpadBoGLyBpadBoGLzBpadBoGMaBp"⟩,
  ⟨0x320C, "adBoGMbBpadBoGMcBpadBoCNDoBpadBoCOWuBpadBoCPTkBpadBoCRMqBpadBoCSJgBpadBoCTFwBp"⟩,
  ⟨0x3214, "adBoCUZcBpadBoCWSiBpadBoCXOyBpadBoCZIeBpadBoDAEuBpadBoDBBkBpadBoDBYaBpadBoDCUqBp"⟩,
  ⟨0x321C, "adBoCYCyBpaeBoCXAyCXTkBpaeBoCXAyDDIqBpbdBoBDOaBpadBoBDTkBpadBoBDOjBpadBoBGXfBp"⟩,
  ⟨0x3224, "adBoBDTsBpadBoBEVtBpadBoBDOdBpadBoBEVrBpadBoBDRpBpadBoBFNtBpadBoBNAmBpadBoBQOxBp"⟩,
  ⟨0x322C, "adBoBOZkBpadBoBNBsBpadBoCDFtBpadBoBGZvBpadBoBMPhBpadBoBNLqBpadBoBNAnBpadBoBTXuBp"⟩,
  ⟨0x3234, "adBoBFVpBpadBoBRJdBpadBoCBGrBpadBoBTYzBpadBoBFIiBpadBoBDWtBpadBoBFZwBpadBoBIPyBp"⟩,
  ⟨0x323C, "adBoBTApBpadBoBDXxBpadBoCBIdBpadBoBFOmBpadBoBTZpBpadBoBDYnBpadBoBXFeBpadBoBXFnBp"⟩,
  ⟨0x3244, "abBGHzabBJUiabBMLrabBUUpidEiEmDxacByBxacByByacByBzacByCaacByCbacByCcacByCdacByCe"⟩,
  ⟨0x3259, "acByCfacBzBwacBzBxacBzByacBzBzacBzCaacBzCbabGLkabGLmabGLnabGLpabGLqabGLrabGLt"⟩,
  ⟨0x3267, "abGLvabGLwabGLyabGLzabGMaabGMbabGMcabCNDoabCOWuabCPTkabCRMqabCSJgabCTFwabCUZc"⟩,
  ⟨0x3275, "abCWSiabCXOyabCZIeabDAEuabDBBkabDBYaabDCUqacCZIuCNMeacCYCyCXMuabCXGibbBDOaabBDTk"⟩,
  ⟨0x3282, "abBDOjabBGXfabBDTsabBEVtabBDOdabBEVrabBDRpabBFNtabBNAmabBQOxabBOZkabBNBsabCDFt"⟩,
  ⟨0x328F, "abBGZvabBMPhabBNLqabBNAnabBTXuabBFVpabBRJdabCBGrabBTYzabBFIiabBUDsabBSKdabBHWt"⟩,
  ⟨0x329C, "abCCRxabBETeabBFPoabBPGiabCFOvabBDYnabBEXlabBORjabBDOkabBDPtabBDOlabBJOoabBFUp"⟩,
  ⟨0x32A9, "abBFNnabBIRvabBIPyabBTApabBDXxabCBIdabBFOmabBHTkacBzCcacBzCdacBzCeacBzCfacCaBw"⟩,
  ⟨0x32B6, "acCaBxacCaByacCaBzacCaCaacCaCbacCaCcacCaCdacCaCeacCaCfacCbBwacBxBNAmacByBNAm"⟩,
  ⟨0x32C2, "acBzBNAmacCaBNAmacCbBNAmacCcBNAmacCdBNAmacCeBNAmacCfBNAmadBxBwBNAmadBxBxBNAm"⟩,
  ⟨0x32CB, "adBxByBNAmacEaDzadDxEkDzacDxEoadEeEmDwabSKwabSKyabSLaabSLcabSLeabSLfabSLhabSLj"⟩,
  ⟨0x32D8, "abSLlabSLnabSLpabSLrabSLtabSLvabSLxabSLzabSMbabSMeabSMgabSMiabSMkabSMlabSMmabSMn"⟩,
  ⟨0x32E8, "abSMoabSMpabSMsabSMvabSMyabSNbabSNeabSNfabSNgabSNhabSNiabSNkabSNmabSNoabSNpabSNq"⟩,
  ⟨0x32F8, "abSNrabSNsabSNtabSNvabSNwabSNxabSNyacBDWuBGAmaeSKwSMrSOiSMiaeSKwSNrSMvSKv"⟩,
  ⟨0x3302, "aeSKwSNzSNaSKwadSKwSOiSNraeSKySMlSNzSLkadSKySNzSMbadSLaSLdSNzafSLcSLtSLjSOiSMj"⟩,
  ⟨0x3308, "aeSLcSOiSLfSOiadSLeSNzSLtadSLeSOiSNgadSLfSKySNqaeSLfSNpSMdSMiaeSLfSNtSNqSOi"⟩,
  ⟨0x330E, "adSLgSNtSNzadSLgSNzSNeacSLiSLgadSLiSMlSOiaeSLhSNlSNqSOiaeSLiSNrSMaSOiacSLhSNt"⟩,
  ⟨0x3315, "afSLhSNtSLkSNpSNgagSLhSNtSNhSOiSMiSNrafSLhSNtSNvSMdSMiadSLkSNpSNg"⟩,
  ⟨0x3319, "afSLkSNpSNgSMiSNzafSLjSNrSLwSKySNtaeSLjSNtSOiSMnadSLlSOiSLtadSLnSNrSMk"⟩,
  ⟨0x331E, "adSLnSOiSNdaeSLpSKySLjSNrafSLpSNzSMbSOiSNgaeSLrSNqSNzSLkadSLvSNzSMbadSLvSNzSMi"⟩,
  ⟨0x3324, "adSMaSOiSLtacSMhSLracSMjSNracSMiSNzacSMkSMoadSMoSMdSMiadSMpSKySMe"⟩,
  ⟨0x332B, "afSMrSOiSLvSNzSMiadSMrSOiSMeaeSMqSOiSNsSNrafSMuSKwSLtSMiSNradSMuSLjSNracSMuSLn"⟩,
  ⟨0x3331, "acSMtSNrafSMvSKvSNpSMdSMjaeSMvSKxSOiSMiafSMwSMdSLrSLbSNradSMvSNpSNz"⟩,
  ⟨0x3336, "afSMySLjSLzSOiSNracSNaSLxadSNaSMlSMsadSMySNrSMeadSNaSNzSLtadSNaSOiSLsadSMzSOiSLz"⟩,
  ⟨0x333D, "aeSNdSKySNzSMiadSNcSNrSMiacSNbSNzadSNdSNzSMjadSNbSOiSNradSNbSOiSNzaeSNeSKySLjSNt"⟩,
  ⟨0x3344, "adSNeSKySNradSNeSMdSMpadSNeSNrSLjafSNeSNzSLrSNnSNzaeSNfSLjSNtSNzacSNfSNq"⟩,
  ⟨0x334A, "afSNfSNqSMqSOiSNracSNhSLgaeSNhSLgSMiSNzaeSNhSOiSMiSNradSNkSOiSMjadSNkSOiSNr"⟩,
  ⟨0x3350, "adSNmSKwSNzaeSNqSMdSMiSNracSNqSNpadSNrSMuSOiaeSNrSOiSMwSNracSNsSNg"⟩,
  ⟨0x3356, "afSNsSNzSMiSLmSNzadSNvSMdSMiacBwBQRxacBxBQRxacByBQRxacBzBQRxacCaBQRxacCbBQRx"⟩,
  ⟨0x335E, "acCcBQRxacCdBQRxacCeBQRxacCfBQRxadBxBwBQRxadBxBxBQRxadBxByBQRxadBxBzBQRx"⟩,
  ⟨0x3366, "adBxCaBQRxadBxCbBQRxadBxCcBQRxadBxCdBQRxadBxCeBQRxadBxCfBQRxadByBwBQRxadByBxBQRx"⟩,
  ⟨0x336E, "adByByBQRxadByBzBQRxadByCaBQRxadEaEiDtacDwDtacDtEnadDuDtEkacEhEoacEiDvacDwEf"⟩,
  ⟨0x3378, "adDwEfByadDwEfBzacEbEnacBJTzBLDoacBMSbBGAmacBHTvBORjacBMQwBPEpaeBNLqBJZzBDYwBTXu"⟩,
  ⟨0x3380, "acEiDtacEgDtacBKuDtacEfDtacEdDtacEdDuacEfDuacDzDuadDvDtEeaeEdDvDtEeacEiDyacEgDy"⟩,
  ⟨0x338C, "acBKuDyacBKuDzacEfDzacEdDzacEaEsadEdEaEsadEfEaEsadDzEaEsadEmEaEsacBKuEeacEfEe"⟩,
  ⟨0x3397, "acDwEeacEdEeacDyEfacEgEfacBKuEfacEfEfacDvEfacEdEfadEfEfByadDvEfByacEfByadEdEfBy"⟩,
  ⟨0x33A3, "adEfEfBzadDvEfBzacEfBzadEdEfBzadEfMXpElaeEfMXpElByacEiDtadEdEiDtadEfEiDtadDzEiDt"⟩,
  ⟨0x33AD, "adEkDtDwafEkDtDwMXpElagEkDtDwMXpElByacEiElacEgElacBKuElacEfElacEiEoacEgEoacBKuEo"⟩,
  ⟨0x33B7, "acEfEoacEdEoacEfEoacEiEpacEgEpacBKuEpacEfEpacEdEpacEfEpacEdBLhacEfBLhbcDuEj"⟩,
  ⟨0x33C4, "acDvDvacDvDwaeDvMXpEdDzbcDwDuacDzEracEaDtacEaEiacEbEgacEdEdacEdEfacEdEmacEeEf"⟩,
  ⟨0x33D1, "acEeEgadEeEhDzacEeEqacEfDuadEfEbEeadEfEhEeacEiEabdEiEiEfacEiEkacElEkacElEoacEpDu"⟩,
  ⟨0x33DE, "adEoMXpEfadDtMXpEfacBxBMPhacByBMPhacBzBMPhacCaBMPhacCbBMPhacCcBMPhacCdBMPh"⟩,
  ⟨0x33E7, "acCeBMPhacCfBMPhadBxBwBMPhadBxBxBMPhadBxByBMPhadBxBzBMPhadBxCaBMPhadBxCbBMPh"⟩,
  ⟨0x33EF, "adBxCcBMPhadBxCdBMPhadBxCeBMPhadBxCfBMPhadByBwBMPhadByBxBMPhadByByBMPhadByBzBMPh"⟩,
  ⟨0x33F7, "adByCaBMPhadByCbBMPhadByCcBMPhadByCdBMPhadByCeBMPhadByCfBMPhadBzBwBMPhadBzBxBMPh"⟩,
  ⟨0x33FF, "adDzDtEeBRGybCKYzbbCKZbbbCKZdbbCKZfbbCKZhbbCKZjbbCKZlbbCKZnbbCKZpbbCKZrbbCKZt"⟩,
  ⟨0xA656, "abCKZvbbCKZxbbCKZzbbCLAbbbCLAdbbCLAfbbCLAhbbCLAjbbCLAlbbCLAnbbCLApbbCLArtbCLBl"⟩,
  ⟨0xA682, "abCLBnbbCLBpbbCLBrbbCLBtbbCLBvbbCLBxbbCLBzbbCLCbbbCLCdbbCLCfbbCLChbbCLCjbbCLCl"⟩,
  ⟨0xA69C, "abBQgabBQiFcbCLHrbbCLHtbbCLHvbbCLHxbbCLHzbbCLIbbbCLIddbCLIhbbCLIjbbCLIlbbCLIn"⟩,
  ⟨0xA73A, "abCLIpbbCLIrbbCLItbbCLIvbbCLIxbbCLIzbbCLJbbbCLJdbbCLJfbbCLJhbbCLJjbbCLJlbbCLJn"⟩,
  ⟨0xA754, "abCLJpbbCLJrbbCLJtbbCLJvbbCLJxbbCLJzbbCLKbbbCLKdbbCLKfbbCLKhbbCLKjbbCLKlbbCLKn"⟩,
  ⟨0xA76E, "abCLKpbbCLKpibCLLabbCLLcbbLEfabCLLfbbCLLhbbCLLjbbCLLlbbCLLnebCLLsbbXpcbCLLx"⟩,
  ⟨0xA792, "abCLLzdbCLMdbbCLMfbbCLMhbbCLMjbbCLMlbbCLMnbbCLMpbbCLMrbbCLMtbbCLMvbbXqabXgabXl"⟩,
  ⟨0xA7AD, "abXwabXubbZuabYxabZtabCMWxabCLNhbbCLNjbbCLNlbbCLNnbbCLNpbbCLNrbbCLNtbbCLNvbbCLMa"⟩,
  ⟨0xA7C5, "abYsabLFaabCLOabbCLOcbbXoabCLOfbbCLOhbbCLOjbbCLOlbbCLOnbbCLOpbbCLOrbbCLOtbbPv"⟩,
  ⟨0xA7F1, "abElabDvabDyabEjabCLPucbLjabNbBHibCLHvabCMVvabXvabCMWwjbZdgbHLgabHLhabHLiabHLj"⟩,
  ⟨0xAB74, "abHLkabHLlabHLmabHLnabHLoabHLpabHLqabHLrabHLsabHLtabHLuabHLvabHLwabHLxabHLyabHLz"⟩,
  ⟨0xAB84, "abHMaabHMbabHMcabHMdabHMeabHMfabHMgabHMhabHMiabHMjabHMkabHMlabHMmabHMnabHMoabHMp"⟩,
  ⟨0xAB94, "abHMqabHMrabHMsabHMtabHMuabHMvabHMwabHMxabHMyabHMzabHNaabHNbabHNcabHNdabHNeabHNf"⟩,
  ⟨0xABA4, "abHNgabHNhabHNiabHNjabHNkabHNlabHNmabHNnabHNoabHNpabHNqabHNrabHNsabHNtabHNuabHNv"⟩,
  ⟨0xABB4, "abHNwabHNxabHNyabHNzabHOaabHObabHOcabHOdabHOeabHOfabHOgabHOhBDGqbCBDgabBMZs"⟩,
  ⟨0xF902, "abCCByabCBIeabBPZdabBDPyabBFUbabCILoabCILoabBHVlabCDFtabBGKdabBHVcabBLCoabBSVx"⟩,
  ⟨0xF90F, "abBWHpabBYVvabBZKkabBZWqabCCTjabBODuabBPIhabBQTdabBRWwabBYCbabCDBuabCGHtabBDTa"⟩,
  ⟨0xF91C, "abBFPtabBONsabBRFnabBYVdabCHWwabBJIuabBQJzabBYRlabCAAuabBLKrabBXEmabBZOhabBJXi"⟩,
  ⟨0xF929, "abBNBbabBPLiabBROeabCCVuabBEDaabBEYpabBFJyabBMEeabBOLvabBRFcabBTAtabBWMjabBYTq"⟩,
  ⟨0xF936, "abBYWyabCBTnabCFGsabCGWlabCHVmabBTQyabBUAhabBVOyabBXXpabCDRoabCIApabCAPaabBHRb"⟩,
  ⟨0xF943, "abBJZoabBVCqabBWReabBRIgabBTTiabCBHyabCFElabBHQuabBIZqabBOElabBPPqabBQBnabBVKp"⟩,
  ⟨0xF950, "abBVUtabCEXvabBFJmabBWRrabBFAaabBEZkabBUGiabBVQcabBXZdabCEZlabCAVoabBLKxabBODu"⟩,
  ⟨0xF95D, "abCAQoabBDQfabBIUxabBKJyabBRTnabBSMiabBFMdabBTVfabBEFfabBKFxabBDOnabBPFgabBMLc"⟩,
  ⟨0xF96A, "abBVKcabBFStabBHMcabBTBtabBYCnabCANiabBOUsabCCKuabBPCqabBLMsabBXOvabBLSyabBSLx"⟩,
  ⟨0xF977, "abBDUsabBEVpabBEZhabBNOzabBVHvabBXKhabCAOwabCDFrabBFKvabBFXqabBHWtabBJYqabBMOb"⟩,
  ⟨0xF984, "abBQKsabBTXaabCERtabCGMkabCIBnabCIDqabBFHjabBMXyabBOSdabCCHuabBJUaabBKYqabBLCy"⟩,
  ⟨0xF991, "abBMCoabBQChabBQXlabBSDlabBUDeabBVSeabBWQpabCCFmabBYIwabCCPfabCDUgabBFChabBFHr"⟩,
  ⟨0xF99E, "abBGCjabBQSmabBZUoabCANiabBJXhabBKIvabBLRnabBOUgabBVBiabBRSvabBDWuabBGYjabBIUx"⟩,
  ⟨0xF9AB, "abBJMwabBKKiabBRVeabBSCfabBWIkabBWPaabCDJoabCFEkabCFHoabCFPoabBEDfabBUCcabCDEq"⟩,
  ⟨0xF9B8, "abCFCaabBKRxabBDTeabBEQcabBIVeabBIYhabBMMjabBODuabBRCoabBSUkabBYJkabCCSqabCIKz"⟩,
  ⟨0xF9C5, "abBMVoabCEWsabBFGrabBNExabBNJnabBPJtabBPXcabBRYnabBSLlabBTPrabBVJkabCFSgabBEVt"⟩,
  ⟨0xF9D2, "abBLEsabCEZoabBEJjabBJGrabBPQgabCCFqabBKEtabBKVsabBNKxabBRTnabCFAcabBFCzabBFVr"⟩,
  ⟨0xF9DF, "abBIZtabBMRbabBNDeabBNQmabBPGfabBRYkabBSQsabBWHdabBZVbabBZVtabCDFoabCFDqabBFNr"⟩,
  ⟨0xF9EC, "abBPYgabBFWfabBRCqabBSEaabBYTeabCFBfabCHFjabCIBvabBNFzabBPPbabBXFcabBUNbabBUQi"⟩,
  ⟨0xF9F9, "abBVEoabBRLwabBQQrabCAUaabBDVkabBXRyabBFDqabBFBrabBJVyabBLLbabBVHeabBIRdabBPIk"⟩,
  ⟨0xFA06, "abBMXgabCCGhabBZQaabCEXxabCAChabBJXrabBEUaabBGMicbBHLybbBMUucbBFAcabBRPyabBSZq"⟩,
  ⟨0xFA18, "abBTXsabBTZaabBTZhabBUAxabCFIcabBVGgabBWJtbbBYUcbbCAQicbCCQaabCCXpdbCFXvabCFYi"⟩,
  ⟨0xFA2C, "abCGAaabCHSuabCCWkabCFBzabBEEoabBEQpabBEUnabBFJdabBFKeabBFOjabBGKzabBGPaabBGSu"⟩,
  ⟨0xFA39, "abBHKyabBHOyabBIZsabBJAcabBKOyabBKXcabBKYoabBLCkabBMJnabBMPeabBMVxabBNPdabBPLv"⟩,
  ⟨0xFA46, "abBPScabBQCgabBQYwabBRGdabBRZmabBTRdabBTXuabBTYfabBTYeabBTYmabBTYsabBTYzabBUAv"⟩,
  ⟨0xFA53, "abBUAwabBUHsabBUKfabBUWmabBVSeabBVSzabBVVdabBWGwabBWMnabBXFhabBXKrabBXKrabBYDb"⟩,
  ⟨0xFA60, "abBZXoabCACsabCAQrabCASvabCBIpabCBKqabCCLaabCCQaabCFDrabCFOpabCFQxabBKNtabILGg"⟩,
  ⟨0xFA6D, "abBXGycbBDPmabBEYnabBEVoabBECuabBEUfabBEWmabBFJbabBFLaabBGKzabBGIfabBGKvabBGNq"⟩,
  ⟨0xFA7C, "abBHLyabBHPjabBHUyabBHVoabBIFyabBINoabBJXqabBJXxabBKDlabBKGbabBKRoabBKWcabBKTk"⟩,
  ⟨0xFA89, "abBKYoabBKWuabBLCkabBLEyabBLUiabBLXsabBLZuabBMJuabBMUuabBNBbabBNBfabBNDmabBOSf"⟩,
  ⟨0xFA96, "abBOUsabBPJtabBPZnabBPYxabBQCgabBQLyabBQYwabBTIdabBRGnabBRLfabBRPyabBSCnabBSIg"⟩,
  ⟨0xFAA3, "abBSKhabBSSzabBSTbabBSZqabBTAhabBTBgabBTEoabBTEeabBTTkabBUMbabBUWmabBVDrabBVMh"⟩,
  ⟨0xFAB0, "abBVSeabBWEwabBWMnabBXTaabBXZbabBZHxabBZZlabCACcabCACsabCAOdabCAQiabCAOpabCAQr"⟩,
  ⟨0xFABD, "abCAQoabCAPxabCASvabCAVyabCBKqabCCGeabCCSgabCDDpabCDMcabCEZsabCFDrabCFIcabCFNf"⟩,
  ⟨0xFACA, "abCFOpabCFPbabCFQxabCGSwabCILoabIBDyabIBDsabIFNpabWOzabYHcabYIjabIRBlabIVBc"⟩,
  ⟨0xFAD7, "abJHXzabCIIdabCILaBmcDyDyacDyEbacDyEeadDyDyEbadDyDyEeacElEmacElEmmcCBsCBu"⟩,
  ⟨0xFB14, "acCBsCBdacCBsCBjacCCcCBuacCBsCBlfcCFpCEebcCGoCEhabCFyabCFgabCFjabCFkabCFrabCFs"⟩,
  ⟨0xFB26, "abCFtabCGeabCGgabBracCGfCEracCGfCEsadCGfCEmCEradCGfCEmCEsacCFgCEhacCFgCEi"⟩,
  ⟨0xFB30, "acCFgCEmacCFhCEmacCFiCEmacCFjCEmacCFkCEmacCFlCEmacCFmCEmbcCFoCEmacCFpCEmacCFqCEm"⟩,
  ⟨0xFB3B, "acCFrCEmacCFsCEmbcCFuCEmbcCFwCEmacCFxCEmbcCFzCEmacCGaCEmbcCGcCEmacCGdCEmacCGeCEm"⟩,
  ⟨0xFB49, "acCGfCEmacCGgCEmacCFlCEjacCFhCEpacCFrCEpacCGaCEpacCFgCFsabCLlabCLlabCLvabCLv"⟩,
  ⟨0xFB54, "abCLvabCLvabCLyabCLyabCLyabCLyabCMaabCMaabCMaabCMaabCLuabCLuabCLuabCLuabCLzabCLz"⟩,
  ⟨0xFB64, "abCLzabCLzabCLtabCLtabCLtabCLtabCNkabCNkabCNkabCNkabCNmabCNmabCNmabCNmabCMeabCMe"⟩,
  ⟨0xFB74, "abCMeabCMeabCMdabCMdabCMdabCMdabCMgabCMgabCMgabCMgabCMhabCMhabCMhabCMhabCMnabCMn"⟩,
  ⟨0xFB84, "abCMmabCMmabCMoabCMoabCMiabCMiabCMyabCMyabCMrabCMrabCNpabCNpabCNpabCNpabCNvabCNv"⟩,
  ⟨0xFB94, "abCNvabCNvabCNzabCNzabCNzabCNzabCNxabCNxabCNxabCNxabCOgabCOgabCOhabCOhabCOhabCOh"⟩,
  ⟨0xFBA4, "abCOmabCOmabCOnabCOnabCOnabCOnabCOkabCOkabCOkabCOkabCPeabCPeabCPfabCPfBhbCNt"⟩,
  ⟨0xFBD4, "abCNtabCNtabCNtabCOtabCOtabCOsabCOsabCOuabCOuacCOtCLoabCOxabCOxabCOrabCOrabCOv"⟩,
  ⟨0xFBE3, "abCOvabCPcabCPcabCPcabCPcabCJxabCJxacCIoCIpacCIoCIpacCIoCPhacCIoCPhacCIoCJw"⟩,
  ⟨0xFBEF, "acCIoCJwacCIoCOtacCIoCOtacCIoCOsacCIoCOsacCIoCOuacCIoCOuacCIoCPcacCIoCPcacCIoCPc"⟩,
  ⟨0xFBF9, "acCIoCJxacCIoCJxacCIoCJxabCOyabCOyabCOyabCOyacCIoCIuacCIoCIvacCIoCJtacCIoCJx"⟩,
  ⟨0xFC04, "acCIoCJyacCIqCIuacCIqCIvacCIqCIwacCIqCJtacCIqCJxacCIqCJyacCIsCIuacCIsCIvacCIsCIw"⟩,
  ⟨0xFC0E, "acCIsCJtacCIsCJxacCIsCJyacCItCIuacCItCJtacCItCJxacCItCJyacCIuCIvacCIuCJtacCIvCIu"⟩,
  ⟨0xFC18, "acCIvCJtacCIwCIuacCIwCIvacCIwCJtacCJbCIuacCJbCIvacCJbCIwacCJbCJtacCJdCIvacCJdCJt"⟩,
  ⟨0xFC22, "acCJeCIuacCJeCIvacCJeCIwacCJeCJtacCJfCIvacCJfCJtacCJgCJtacCJhCIuacCJhCJtacCJiCIu"⟩,
  ⟨0xFC2C, "acCJiCJtacCJpCIuacCJpCIvacCJpCIwacCJpCJtacCJpCJxacCJpCJyacCJqCIvacCJqCJtacCJqCJx"⟩,
  ⟨0xFC36, "acCJqCJyacCJrCIpacCJrCIuacCJrCIvacCJrCIwacCJrCJsacCJrCJtacCJrCJxacCJrCJyacCJsCIu"⟩,
  ⟨0xFC40, "acCJsCIvacCJsCIwacCJsCJtacCJsCJxacCJsCJyacCJtCIuacCJtCIvacCJtCIwacCJtCJtacCJtCJx"⟩,
  ⟨0xFC4A, "acCJtCJyacCJuCIuacCJuCIvacCJuCIwacCJuCJtacCJuCJxacCJuCJyacCJvCIuacCJvCJtacCJvCJx"⟩,
  ⟨0xFC54, "acCJvCJyacCJyCIuacCJyCIvacCJyCIwacCJyCJtacCJyCJxacCJyCJyacCIyCLkacCIzCLkacCJxCLk"⟩,
  ⟨0xFC5E, "adBgCKaCKfadBgCKbCKfadBgCKcCKfadBgCKdCKfadBgCKeCKfadBgCKfCLkacCIoCIzacCIoCJa"⟩,
  ⟨0xFC66, "acCIoCJtacCIoCJuacCIoCJxacCIoCJyacCIqCIzacCIqCJaacCIqCJtacCIqCJuacCIqCJxacCIqCJy"⟩,
  ⟨0xFC70, "acCIsCIzacCIsCJaacCIsCJtacCIsCJuacCIsCJxacCIsCJyacCItCIzacCItCJaacCItCJtacCItCJu"⟩,
  ⟨0xFC7A, "acCItCJxacCItCJyacCJpCJxacCJpCJyacCJqCJxacCJqCJyacCJrCIpacCJrCJsacCJrCJtacCJrCJx"⟩,
  ⟨0xFC84, "acCJrCJyacCJsCJtacCJsCJxacCJsCJyacCJtCIpacCJtCJtacCJuCIzacCJuCJaacCJuCJtacCJuCJu"⟩,
  ⟨0xFC8E, "acCJuCJxacCJuCJyacCJxCLkacCJyCIzacCJyCJaacCJyCJtacCJyCJuacCJyCJxacCJyCJyacCIoCIu"⟩,
  ⟨0xFC98, "acCIoCIvacCIoCIwacCIoCJtacCIoCJvacCIqCIuacCIqCIvacCIqCIwacCIqCJtacCIqCJvacCIsCIu"⟩,
  ⟨0xFCA2, "acCIsCIvacCIsCIwacCIsCJtacCIsCJvacCItCJtacCIuCIvacCIuCJtacCIvCIuacCIvCJtacCIwCIu"⟩,
  ⟨0xFCAC, "acCIwCJtacCJbCIuacCJbCIvacCJbCIwacCJbCJtacCJdCIvacCJdCIwacCJdCJtacCJeCIuacCJeCIv"⟩,
  ⟨0xFCB6, "acCJeCIwacCJeCJtacCJfCIvacCJgCJtacCJhCIuacCJhCJtacCJiCIuacCJiCJtacCJpCIuacCJpCIv"⟩,
  ⟨0xFCC0, "acCJpCIwacCJpCJtacCJqCIvacCJqCJtacCJrCIuacCJrCIvacCJrCIwacCJrCJsacCJrCJtacCJsCIu"⟩,
  ⟨0xFCCA, "acCJsCIvacCJsCIwacCJsCJtacCJsCJvacCJtCIuacCJtCIvacCJtCIwacCJtCJtacCJuCIuacCJuCIv"⟩,
  ⟨0xFCD4, "acCJuCIwacCJuCJtacCJuCJvacCJvCIuacCJvCJtacCJvCLkacCJyCIuacCJyCIvacCJyCIwacCJyCJt"⟩,
  ⟨0xFCDE, "acCJyCJvacCIoCJtacCIoCJvacCIqCJtacCIqCJvacCIsCJtacCIsCJvacCItCJtacCItCJvacCJbCJt"⟩,
  ⟨0xFCE8, "acCJbCJvacCJcCJtacCJcCJvacCJrCJsacCJrCJtacCJsCJtacCJuCJtacCJuCJvacCJyCJtacCJyCJv"⟩,
  ⟨0xFCF2, "adCJoCKcCKfadCJoCKdCKfadCJoCKeCKfacCJfCJxacCJfCJyacCJhCJxacCJhCJyacCJiCJx"⟩,
  ⟨0xFCFA, "acCJiCJyacCJbCJxacCJbCJyacCJcCJxacCJcCJyacCIvCJxacCIvCJyacCIuCJxacCIuCJyacCIwCJx"⟩,
  ⟨0xFD04, "acCIwCJyacCJdCJxacCJdCJyacCJeCJxacCJeCJyacCJcCIuacCJcCIvacCJcCIwacCJcCJtacCJcCIz"⟩,
  ⟨0xFD0E, "acCJbCIzacCJdCIzacCJeCIzacCJfCJxacCJfCJyacCJhCJxacCJhCJyacCJiCJxacCJiCJyacCJbCJx"⟩,
  ⟨0xFD18, "acCJbCJyacCJcCJxacCJcCJyacCIvCJxacCIvCJyacCIuCJxacCIuCJyacCIwCJxacCIwCJyacCJdCJx"⟩,
  ⟨0xFD22, "acCJdCJyacCJeCJxacCJeCJyacCJcCIuacCJcCIvacCJcCIwacCJcCJtacCJcCIzacCJbCIzacCJdCIz"⟩,
  ⟨0xFD2C, "acCJeCIzacCJcCIuacCJcCIvacCJcCIwacCJcCJtacCJbCJvacCJcCJvacCJfCJtacCJbCIuacCJbCIv"⟩,
  ⟨0xFD36, "acCJbCIwacCJcCIuacCJcCIvacCJcCIwacCJfCJtacCJgCJtacCIpCJzacCIpCJzsdCIsCIuCJt"⟩,
  ⟨0xFD51, "adCIsCIvCIuadCIsCIvCIuadCIsCIvCJtadCIsCIwCJtadCIsCJtCIuadCIsCJtCIvadCIsCJtCIw"⟩,
  ⟨0xFD58, "adCIuCJtCIvadCIuCJtCIvadCIvCJtCJyadCIvCJtCJxadCJbCIvCIuadCJbCIuCIvadCJbCIuCJx"⟩,
  ⟨0xFD5F, "adCJbCJtCIvadCJbCJtCIvadCJbCJtCIuadCJbCJtCJtadCJbCJtCJtadCJdCIvCIvadCJdCIvCIv"⟩,
  ⟨0xFD66, "adCJdCJtCJtadCJcCIvCJtadCJcCIvCJtadCJcCIuCJyadCJcCJtCIwadCJcCJtCIwadCJcCJtCJt"⟩,
  ⟨0xFD6D, "adCJcCJtCJtadCJeCIvCJxadCJeCIwCJtadCJeCIwCJtadCJfCJtCIvadCJfCJtCIvadCJfCJtCJt"⟩,
  ⟨0xFD74, "adCJfCJtCJyadCJhCIuCJtadCJhCJtCJtadCJhCJtCJtadCJhCJtCJxadCJiCJtCJtadCJiCJtCJy"⟩,
  ⟨0xFD7B, "adCJiCJtCJxadCJpCIwCJtadCJpCIwCJtadCJqCJtCIvadCJqCJtCJtadCJsCIvCJtadCJsCIvCJy"⟩,
  ⟨0xFD82, "adCJsCIvCJxadCJsCIuCIuadCJsCIuCIuadCJsCIwCJtadCJsCIwCJtadCJsCJtCIvadCJsCJtCIv"⟩,
  ⟨0xFD89, "adCJtCIvCIuadCJtCIvCJtadCJtCIvCJyadCJtCIuCIvadCJtCIuCJtadCJtCIwCIuadCJtCIwCJt"⟩,
  ⟨0xFD92, "adCJtCIuCIwadCJvCJtCIuadCJvCJtCJtadCJuCIvCJtadCJuCIvCJxadCJuCIuCJtadCJuCIuCJt"⟩,
  ⟨0xFD99, "adCJuCIuCJxadCJuCJtCJyadCJuCJtCJxadCJyCJtCJtadCJyCJtCJtadCIqCIwCJyadCIsCIuCJy"⟩,
  ⟨0xFDA0, "adCIsCIuCJxadCIsCIwCJyadCIsCIwCJxadCIsCJtCJyadCIsCJtCJxadCIuCJtCJyadCIuCIvCJx"⟩,
  ⟨0xFDA7, "adCIuCJtCJxadCJbCIwCJxadCJdCIvCJyadCJcCIvCJyadCJeCIvCJyadCJsCIuCJyadCJsCJtCJy"⟩,
  ⟨0xFDAE, "adCJyCIvCJyadCJyCIuCJyadCJyCJtCJyadCJtCJtCJyadCJqCJtCJyadCJuCIvCJyadCJqCJtCIv"⟩,
  ⟨0xFDB5, "adCJsCIvCJtadCJhCJtCJyadCJrCJtCJyadCJuCIuCIvadCJtCIwCJyadCJsCIuCJtadCJrCJtCJt"⟩,
  ⟨0xFDBC, "adCJsCIuCJtadCJuCIuCIvadCIuCIvCJyadCIvCIuCJyadCJtCIuCJyadCJpCJtCJyadCIqCIvCJy"⟩,
  ⟨0xFDC3, "adCJrCJtCJtadCJhCIuCJtadCJdCJtCJtadCJbCIwCJyadCJuCIuCJyBodCJdCJsCPeadCJqCJsCPe"⟩,
  ⟨0xFDF2, "aeCIpCJsCJsCJvaeCIpCJrCIqCIzaeCJtCIvCJtCIxaeCJdCJsCJhCJtaeCIzCJbCJwCJs"⟩,
  ⟨0xFDF7, "aeCJhCJsCJyCJvaeCJwCJbCJsCJtadCJdCJsCJx"⟩,
  ⟨0xFDFA, "asCJdCJsCJxBgCIpCJsCJsCJvBgCJhCJsCJyCJvBgCJwCJbCJsCJtaiCIuCJsBgCIuCJsCIpCJsCJv"⟩,
  ⟨0xFDFC, "aeCIzCOyCIpCJstbBsabSErbbCgabChabBhabClabSFmabSFnybMDwabMDvabDrabDrabBoabBpabEt"⟩,
  ⟨0xFE38, "abEvabSFkabSFlabSFgabSFhabSFaabSFbabSEyabSEzabSFcabSFdabSFeabSFfcbDnabDpacBgBDt"⟩,
  ⟨0xFE4A, "acBgBDtacBgBDtacBgBDtabDrabDrabDrabBsabSErcbChabCgabClabBhabMDwabBoabBpabEtabEv"⟩,
  ⟨0xFE5D, "abSFkabSFlabBjabBmabBqabBrabBtabCiabCkabCjbbDoabBkabBlabCmecBgCJzacCJoCJzacBgCKa"⟩,
  ⟨0xFE74, "acBgCKbbcBgCKcacCJoCKcacBgCKdacCJoCKdacBgCKeacCJoCKeacBgCKfacCJoCKfacBgCKg"⟩,
  ⟨0xFE7F, "acCJoCKgabCIjabCIkabCIkabCIlabCIlabCImabCImabCInabCInabCIoabCIoabCIoabCIoabCIp"⟩,
  ⟨0xFE8E, "abCIpabCIqabCIqabCIqabCIqabCIrabCIrabCIsabCIsabCIsabCIsabCItabCItabCItabCItabCIu"⟩,
  ⟨0xFE9E, "abCIuabCIuabCIuabCIvabCIvabCIvabCIvabCIwabCIwabCIwabCIwabCIxabCIxabCIyabCIyabCIz"⟩,
  ⟨0xFEAE, "abCIzabCJaabCJaabCJbabCJbabCJbabCJbabCJcabCJcabCJcabCJcabCJdabCJdabCJdabCJdabCJe"⟩,
  ⟨0xFEBE, "abCJeabCJeabCJeabCJfabCJfabCJfabCJfabCJgabCJgabCJgabCJgabCJhabCJhabCJhabCJhabCJi"⟩,
  ⟨0xFECE, "abCJiabCJiabCJiabCJpabCJpabCJpabCJpabCJqabCJqabCJqabCJqabCJrabCJrabCJrabCJrabCJs"⟩,
  ⟨0xFEDE, "abCJsabCJsabCJsabCJtabCJtabCJtabCJtabCJuabCJuabCJuabCJuabCJvabCJvabCJvabCJvabCJw"⟩,
  ⟨0xFEEE, "abCJwabCJxabCJxabCJyabCJyabCJyabCJyacCJsCIkacCJsCIkacCJsCIlacCJsCIlacCJsCIn"⟩,
  ⟨0xFEFA, "acCJsCInacCJsCIpacCJsCIpebBhabBiabBjabBkabBlabBmabBnabBoabBpabBqabBrabBsabBtabBu"⟩,
  ⟨0xFF0F, "abBvabBwabBxabByabBzabCaabCbabCcabCdabCeabCfabCgabChabCiabCjabCkabClabCmabDtabDu"⟩,
  ⟨0xFF23, "abDvabDwabDxabDyabDzabEaabEbabEcabEdabEeabEfabEgabEhabEiabEjabEkabElabEmabEnabEo"⟩,
  ⟨0xFF37, "abEpabEqabErabEsabDnabDoabDpabDqabDrabDsabDtabDuabDvabDwabDxabDyabDzabEaabEbabEc"⟩,
  ⟨0xFF4B, "abEdabEeabEfabEgabEhabEiabEjabEkabElabEmabEnabEoabEpabEqabErabEsabEtabEuabEvabEw"⟩,
  ⟨0xFF5F, "abPSvabPSwabBuabSFcabSFdabSErabSOhabSNyabSKvabSKxabSKzabSLbabSLdabSNjabSNlabSNn"⟩,
  ⟨0xFF6F, "abSMdabSOiabSKwabSKyabSLaabSLcabSLeabSLfabSLhabSLjabSLlabSLnabSLpabSLrabSLtabSLv"⟩,
  ⟨0xFF7F, "abSLxabSLzabSMbabSMeabSMgabSMiabSMkabSMlabSMmabSMnabSMoabSMpabSMsabSMvabSMyabSNb"⟩,
  ⟨0xFF8F, "abSNeabSNfabSNgabSNhabSNiabSNkabSNmabSNoabSNpabSNqabSNrabSNsabSNtabSNvabSNzabSKn"⟩,
  ⟨0xFF9F, "abSKobbGLkabGLlabGRyabGLmabGSaabGSbabGLnabGLoabGLpabGSeabGSfabGSgabGShabGSiabGSj"⟩,
  ⟨0xFFB0, "abGMkabGLqabGLrabGLsabGMrabGLtabGLuabGLvabGLwabGLxabGLyabGLzabGMaabGMbabGMcdbGPd"⟩,
  ⟨0xFFC3, "abGPeabGPfabGPgabGPhabGPicbGPjabGPkabGPlabGPmabGPnabGPocbGPpabGPqabGPrabGPsabGPt"⟩,
  ⟨0xFFD7, "abGPucbGPvabGPwabGPxdbGgabGhabGqacBgBDsabGkabGjabMJpbbOAkabMSmabMSnabMSoabMSp"⟩,
  ⟨0xFFED, "abOGmabOIdBObbDUNoabDUNpabDUNqabDUNrabDUNsabDUNtabDUNuabDUNvabDUNwabDUNxabDUNy"⟩,
  ⟨0x1040B, "abDUNzabDUOaabDUObabDUOcabDUOdabDUOeabDUOfabDUOgabDUOhabDUOiabDUOjabDUOkabDUOl"⟩,
  ⟨0x10418, "abDUOmabDUOnabDUOoabDUOpabDUOqabDUOrabDUOsabDUOtabDUOuabDUOvabDUOwabDUOxabDUOy"⟩,
  ⟨0x10425, "abDUOzabDUPaabDUPbFgbDUUiabDUUjabDUUkabDUUlabDUUmabDUUnabDUUoabDUUpabDUUqabDUUr"⟩,
  ⟨0x104BA, "abDUUsabDUUtabDUUuabDUUvabDUUwabDUUxabDUUyabDUUzabDUVaabDUVbabDUVcabDUVdabDUVe"⟩,
  ⟨0x104C7, "abDUVfabDUVgabDUVhabDUViabDUVjabDUVkabDUVlabDUVmabDUVnabDUVoabDUVpabDUVqabDUVr"⟩,
  ⟨0x10570, "abDVBrabDVBsabDVBtabDVBuabDVBvabDVBwabDVBxabDVByabDVBzabDVCaabDVCbbbDVCdabDVCe"⟩,
  ⟨0x1057E, "abDVCfabDVCgabDVChabDVCiabDVCjabDVCkabDVClabDVCmabDVCnabDVCoabDVCpabDVCqabDVCr"⟩,
  ⟨0x1058C, "abDVCtabDVCuabDVCvabDVCwabDVCxabDVCyabDVCzbbDVDbabDVDcSxbBBsabBBtabIwabZpabWx"⟩,
  ⟨0x10787, "abZzabCMXqabBAbabBAaabXaabXbabLFdabXcabXiabBAfabXoabXmabXkabZrabLjabZsabXrabYu"⟩,
  ⟨0x10799, "abBAgabBAhabXwabGZKmabCLLuabXyabGZKnabZeabGZKoabJoabYgabYhabEjabYkabGZKqabYnabYo"⟩,
  ⟨0x107AA, "abYqabBAeabBAcabCMXrabBAdabYyabQVpbbZfabZxabZyabZoabRgabRhabRiabGZKsabGZLm"⟩,
  ⟨0x10C80, "abDXUeabDXUfabDXUgabDXUhabDXUiabDXUjabDXUkabDXUlabDXUmabDXUnabDXUoabDXUpabDXUq"⟩,
  ⟨0x10C8D, "abDXUrabDXUsabDXUtabDXUuabDXUvabDXUwabDXUxabDXUyabDXUzabDXVaabDXVbabDXVcabDXVd"⟩,
  ⟨0x10C9A, "abDXVeabDXVfabDXVgabDXVhabDXViabDXVjabDXVkabDXVlabDXVmabDXVnabDXVoabDXVpabDXVq"⟩,
  ⟨0x10CA7, "abDXVrabDXVsabDXVtabDXVuabDXVvabDXVwabDXVxabDXVyabDXVzabDXWaabDXWbabDXWcGbbDYAy"⟩,
  ⟨0x10D51, "abDYAzabDYBaabDYBbabDYBcabDYBdabDYBeabDYBfabDYBgabDYBhabDYBiabDYBjabDYBkabDYBl"⟩,
  ⟨0x10D5E, "abDYBmabDYBnabDYBoabDYBpabDYBqabDYBrabDYBsabDYBtEGobECIiabECIjabECIkabECIlabECIm"⟩,
  ⟨0x118A5, "abECInabECIoabECIpabECIqabECIrabECIsabECItabECIuabECIvabECIwabECIxabECIyabECIz"⟩,
  ⟨0x118B2, "abECJaabECJbabECJcabECJdabECJeabECJfabECJgabECJhabECJiabECJjabECJkabECJlabECJm"⟩,
  ⟨0x118BF, "abECJnBGJwbFITkabFITlabFITmabFITnabFIToabFITpabFITqabFITrabFITsabFITtabFITu"⟩,
  ⟨0x16E4B, "abFITvabFITwabFITxabFITyabFITzabFIUaabFIUbabFIUcabFIUdabFIUeabFIUfabFIUgabFIUh"⟩,
  ⟨0x16E58, "abFIUiabFIUjabFIUkabFIUlabFIUmabFIUnabFIUoabFIUpCmbFIWxabFIWyabFIWzabFIXaabFIXb"⟩,
  ⟨0x16EA5, "abFIXcabFIXdabFIXeabFIXfabFIXgabFIXhabFIXiabFIXjabFIXkabFIXlabFIXmabFIXnabFIXo"⟩,
  ⟨0x16EB2, "abFIXpabFIXqabFIXrabFIXsabFIXtabFIXuabFIXvBJQrbDtabDuabDvabDwabDxabDyabDzabEa"⟩,
  ⟨0x1CCDE, "abEbabEcabEdabEeabEfabEgabEhabEiabEjabEkabElabEmabEnabEoabEpabEqabErabEsabBwabBx"⟩,
  ⟨0x1CCF2, "abByabBzabCaabCbabCcabCdabCeabCfBRgcGUFvGUGjacGUFwGUGjadGUFwGUGjGUGs"⟩,
  ⟨0x1D161, "adGUFwGUGjGUGtadGUFwGUGjGUGuadGUFwGUGjGUGvadGUFwGUGjGUGwDicGUJpGUGjacGUJqGUGj"⟩,
  ⟨0x1D1BD, "adGUJpGUGjGUGsadGUJqGUGjGUGsadGUJpGUGjGUGtadGUJqGUGjGUGtWdbDtabDuabDvabDwabDx"⟩,
  ⟨0x1D405, "abDyabDzabEaabEbabEcabEdabEeabEfabEgabEhabEiabEjabEkabElabEmabEnabEoabEpabEqabEr"⟩,
  ⟨0x1D419, "abEsabDtabDuabDvabDwabDxabDyabDzabEaabEbabEcabEdabEeabEfabEgabEhabEiabEjabEkabEl"⟩,
  ⟨0x1D42D, "abEmabEnabEoabEpabEqabErabEsabDtabDuabDvabDwabDxabDyabDzabEaabEbabEcabEdabEeabEf"⟩,
  ⟨0x1D441, "abEgabEhabEiabEjabEkabElabEmabEnabEoabEpabEqabErabEsabDtabDuabDvabDwabDxabDyabDz"⟩,
  ⟨0x1D456, "abEbabEcabEdabEeabEfabEgabEhabEiabEjabEkabElabEmabEnabEoabEpabEqabErabEsabDtabDu"⟩,
  ⟨0x1D46A, "abDvabDwabDxabDyabDzabEaabEbabEcabEdabEeabEfabEgabEhabEiabEjabEkabElabEmabEnabEo"⟩,
  ⟨0x1D47E, "abEpabEqabErabEsabDtabDuabDvabDwabDxabDyabDzabEaabEbabEcabEdabEeabEfabEgabEhabEi"⟩,
  ⟨0x1D492, "abEjabEkabElabEmabEnabEoabEpabEqabErabEsabDtbbDvabDwcbDzcbEcabEdcbEgabEhabEiabEj"⟩,
  ⟨0x1D4AE, "abElabEmabEnabEoabEpabEqabErabEsabDtabDuabDvabDwbbDybbEaabEbabEcabEdabEeabEfabEg"⟩,
  ⟨0x1D4C5, "abEiabEjabEkabElabEmabEnabEoabEpabEqabErabEsabDtabDuabDvabDwabDxabDyabDzabEaabEb"⟩,
  ⟨0x1D4D9, "abEcabEdabEeabEfabEgabEhabEiabEjabEkabElabEmabEnabEoabEpabEqabErabEsabDtabDuabDv"⟩,
  ⟨0x1D4ED, "abDwabDxabDyabDzabEaabEbabEcabEdabEeabEfabEgabEhabEiabEjabEkabElabEmabEnabEoabEp"⟩,
  ⟨0x1D501, "abEqabErabEsabDtabDubbDwabDxabDyabDzcbEcabEdabEeabEfabEgabEhabEiabEjbbElabEmabEn"⟩,
  ⟨0x1D519, "abEoabEpabEqabErbbDtabDuabDvabDwabDxabDyabDzabEaabEbabEcabEdabEeabEfabEgabEhabEi"⟩,
  ⟨0x1D52E, "abEjabEkabElabEmabEnabEoabEpabEqabErabEsabDtabDubbDwabDxabDyabDzbbEbabEcabEdabEe"⟩,
  ⟨0x1D544, "abEfbbEhdbElabEmabEnabEoabEpabEqabErbbDtabDuabDvabDwabDxabDyabDzabEaabEbabEcabEd"⟩,
  ⟨0x1D55D, "abEeabEfabEgabEhabEiabEjabEkabElabEmabEnabEoabEpabEqabErabEsabDtabDuabDvabDwabDx"⟩,
  ⟨0x1D571, "abDyabDzabEaabEbabEcabEdabEeabEfabEgabEhabEiabEjabEkabElabEmabEnabEoabEpabEqabEr"⟩,
  ⟨0x1D585, "abEsabDtabDuabDvabDwabDxabDyabDzabEaabEbabEcabEdabEeabEfabEgabEhabEiabEjabEkabEl"⟩,
  ⟨0x1D599, "abEmabEnabEoabEpabEqabErabEsabDtabDuabDvabDwabDxabDyabDzabEaabEbabEcabEdabEeabEf"⟩,
  ⟨0x1D5AD, "abEgabEhabEiabEjabEkabElabEmabEnabEoabEpabEqabErabEsabDtabDuabDvabDwabDxabDyabDz"⟩,
  ⟨0x1D5C1, "abEaabEbabEcabEdabEeabEfabEgabEhabEiabEjabEkabElabEmabEnabEoabEpabEqabErabEsabDt"⟩,
  ⟨0x1D5D5, "abDuabDvabDwabDxabDyabDzabEaabEbabEcabEdabEeabEfabEgabEhabEiabEjabEkabElabEmabEn"⟩,
  ⟨0x1D5E9, "abEoabEpabEqabErabEsabDtabDuabDvabDwabDxabDyabDzabEaabEbabEcabEdabEeabEfabEgabEh"⟩,
  ⟨0x1D5FD, "abEiabEjabEkabElabEmabEnabEoabEpabEqabErabEsabDtabDuabDvabDwabDxabDyabDzabEaabEb"⟩,
  ⟨0x1D611, "abEcabEdabEeabEfabEgabEhabEiabEjabEkabElabEmabEnabEoabEpabEqabErabEsabDtabDuabDv"⟩,
  ⟨0x1D625, "abDwabDxabDyabDzabEaabEbabEcabEdabEeabEfabEgabEhabEiabEjabEkabElabEmabEnabEoabEp"⟩,
  ⟨0x1D639, "abEqabErabEsabDtabDuabDvabDwabDxabDyabDzabEaabEbabEcabEdabEeabEfabEgabEhabEiabEj"⟩,
  ⟨0x1D64D, "abEkabElabEmabEnabEoabEpabEqabErabEsabDtabDuabDvabDwabDxabDyabDzabEaabEbabEcabEd"⟩,
  ⟨0x1D661, "abEeabEfabEgabEhabEiabEjabEkabElabEmabEnabEoabEpabEqabErabEsabDtabDuabDvabDwabDx"⟩,
  ⟨0x1D675, "abDyabDzabEaabEbabEcabEdabEeabEfabEgabEhabEiabEjabEkabElabEmabEnabEoabEpabEqabEr"⟩,
  ⟨0x1D689, "abEsabDtabDuabDvabDwabDxabDyabDzabEaabEbabEcabEdabEeabEfabEgabEhabEiabEjabEkabEl"⟩,
  ⟨0x1D69D, "abEmabEnabEoabEpabEqabErabEsabLtabVvcbBKjabBKkabBKlabBKmabBKnabBKoabBKpabBKq"⟩,
  ⟨0x1D6B0, "abBKrabBKsabBKtabBKuabBKvabBKwabBKxabBKyabBKzabBKqabBLbabBLcabBLdabBLeabBLfabBLg"⟩,
  ⟨0x1D6C0, "abBLhabMXbabBKjabBKkabBKlabBKmabBKnabBKoabBKpabBKqabBKrabBKsabBKtabBKuabBKvabBKw"⟩,
  ⟨0x1D6D0, "abBKxabBKyabBKzabBLbabBLbabBLcabBLdabBLeabBLfabBLgabBLhabMWwabBKnabBKqabBKsabBLe"⟩,
  ⟨0x1D6E0, "abBKzabBKyabBKjabBKkabBKlabBKmabBKnabBKoabBKpabBKqabBKrabBKsabBKtabBKuabBKvabBKw"⟩,
  ⟨0x1D6F0, "abBKxabBKyabBKzabBKqabBLbabBLcabBLdabBLeabBLfabBLgabBLhabMXbabBKjabBKkabBKlabBKm"⟩,
  ⟨0x1D700, "abBKnabBKoabBKpabBKqabBKrabBKsabBKtabBKuabBKvabBKwabBKxabBKyabBKzabBLbabBLbabBLc"⟩,
  ⟨0x1D710, "abBLdabBLeabBLfabBLgabBLhabMWwabBKnabBKqabBKsabBLeabBKzabBKyabBKjabBKkabBKlabBKm"⟩,
  ⟨0x1D720, "abBKnabBKoabBKpabBKqabBKrabBKsabBKtabBKuabBKvabBKwabBKxabBKyabBKzabBKqabBLbabBLc"⟩,
  ⟨0x1D730, "abBLdabBLeabBLfabBLgabBLhabMXbabBKjabBKkabBKlabBKmabBKnabBKoabBKpabBKqabBKrabBKs"⟩,
  ⟨0x1D740, "abBKtabBKuabBKvabBKwabBKxabBKyabBKzabBLbabBLbabBLcabBLdabBLeabBLfabBLgabBLhabMWw"⟩,
  ⟨0x1D750, "abBKnabBKqabBKsabBLeabBKzabBKyabBKjabBKkabBKlabBKmabBKnabBKoabBKpabBKqabBKrabBKs"⟩,
  ⟨0x1D760, "abBKtabBKuabBKvabBKwabBKxabBKyabBKzabBKqabBLbabBLcabBLdabBLeabBLfabBLgabBLhabMXb"⟩,
  ⟨0x1D770, "abBKjabBKkabBKlabBKmabBKnabBKoabBKpabBKqabBKrabBKsabBKtabBKuabBKvabBKwabBKxabBKy"⟩,
  ⟨0x1D780, "abBKzabBLbabBLbabBLcabBLdabBLeabBLfabBLgabBLhabMWwabBKnabBKqabBKsabBLeabBKzabBKy"⟩,
  ⟨0x1D790, "abBKjabBKkabBKlabBKmabBKnabBKoabBKpabBKqabBKrabBKsabBKtabBKuabBKvabBKwabBKxabBKy"⟩,
  ⟨0x1D7A0, "abBKzabBKqabBLbabBLcabBLdabBLeabBLfabBLgabBLhabMXbabBKjabBKkabBKlabBKmabBKnabBKo"⟩,
  ⟨0x1D7B0, "abBKpabBKqabBKrabBKsabBKtabBKuabBKvabBKwabBKxabBKyabBKzabBLbabBLbabBLcabBLdabBLe"⟩,
  ⟨0x1D7C0, "abBLfabBLgabBLhabMWwabBKnabBKqabBKsabBLeabBKzabBKyabBMbabBMbcbBwabBxabByabBzabCa"⟩,
  ⟨0x1D7D3, "abCbabCcabCdabCeabCfabBwabBxabByabBzabCaabCbabCcabCdabCeabCfabBwabBxabByabBzabCa"⟩,
  ⟨0x1D7E7, "abCbabCcabCdabCeabCfabBwabBxabByabBzabCaabCbabCcabCdabCeabCfabBwabBxabByabBzabCa"⟩,
  ⟨0x1D7FB, "abCbabCcabCdabCeabCfDCqbBPgabBPhabBPiabBPjabBPkabBPlabBPmabBPnabBPoabBPqabBPr"⟩,
  ⟨0x1E03B, "abBPsabBPuabBPvabBPwabBPxabBPyabBPzabBQaabBQbabBQcabBQdabBQeabBQhabBQjabBQk"⟩,
  ⟨0x1E04A, "abCLBtabBVtabBQsabBQuabBWjabBUdabBVjabBPgabBPhabBPiabBPjabBPkabBPlabBPmabBPn"⟩,
  ⟨0x1E059, "abBPoabBPqabBPrabBPuabBPvabBPxabBPzabBQaabBQbabBQcabBQdabBQeabBQgabBQhabBSzabBQs"⟩,
  ⟨0x1E069, "abBQrabBRbabBTzabCKZpabBUfDGkbHDGcabHDGdabHDGeabHDGfabHDGgabHDGhabHDGiabHDGj"⟩,
  ⟨0x1E908, "abHDGkabHDGlabHDGmabHDGnabHDGoabHDGpabHDGqabHDGrabHDGsabHDGtabHDGuabHDGvabHDGw"⟩,
  ⟨0x1E915, "abHDGxabHDGyabHDGzabHDHaabHDHbabHDHcabHDHdabHDHeabHDHfabHDHgabHDHhabHDHiabHDHj"⟩,
  ⟨0x1EE00, "abCIpabCIqabCIuabCIxbbCJwabCJaabCIvabCJfabCJyabCJrabCJsabCJtabCJuabCJbabCJhabCJp"⟩,
  ⟨0x1EE11, "abCJdabCJqabCIzabCJcabCIsabCItabCIwabCIyabCJeabCJgabCJiabCLiabCOgabCNhabCLjbbCIq"⟩,
  ⟨0x1EE22, "abCIubbCJvcbCIvbbCJyabCJrabCJsabCJtabCJuabCJbabCJhabCJpabCJdabCJqbbCJcabCIsabCIt"⟩,
  ⟨0x1EE37, "abCIwbbCJebbCJigbCIuebCIvbbCJybbCJsbbCJuabCJbabCJhbbCJdabCJqbbCJccbCIwbbCJebbCJi"⟩,
  ⟨0x1EE5D, "abCOgbbCLjbbCIqabCIubbCJvcbCIvabCJfabCJyabCJrbbCJtabCJuabCJbabCJhabCJpabCJdabCJq"⟩,
  ⟨0x1EE74, "abCJcabCIsabCItabCIwbbCJeabCJgabCJiabCLibbCNhbbCIpabCIqabCIuabCIxabCJvabCJwabCJa"⟩,
  ⟨0x1EE87, "abCIvabCJfabCJybbCJsabCJtabCJuabCJbabCJhabCJpabCJdabCJqabCIzabCJcabCIsabCItabCIw"⟩,
  ⟨0x1EE98, "abCIyabCJeabCJgabCJifbCIqabCIuabCIxbbCJwabCJaabCIvabCJfabCJybbCJsabCJtabCJuabCJb"⟩,
  ⟨0x1EEAF, "abCJhabCJpabCJdabCJqabCIzabCJcabCIsabCItabCIwabCIyabCJeabCJgabCJiWjcBwBsacBxBs"⟩,
  ⟨0x1F103, "acByBsacBzBsacCaBsacCbBsacCcBsacCdBsacCeBsacCfBsfdBoDtBpadBoDuBpadBoDvBpadBoDwBp"⟩,
  ⟨0x1F114, "adBoDxBpadBoDyBpadBoDzBpadBoEaBpadBoEbBpadBoEcBpadBoEdBpadBoEeBpadBoEfBpadBoEgBp"⟩,
  ⟨0x1F11E, "adBoEhBpadBoEiBpadBoEjBpadBoEkBpadBoElBpadBoEmBpadBoEnBpadBoEoBpadBoEpBpadBoEqBp"⟩,
  ⟨0x1F128, "adBoErBpadBoEsBpadSFkElSFlabDvabEkacDvDwacEpEsbbDtabDuabDvabDwabDxabDyabDzabEa"⟩,
  ⟨0x1F138, "abEbabEcabEdabEeabEfabEgabEhabEiabEjabEkabElabEmabEnabEoabEpabEqabErabEsacEaEo"⟩,
  ⟨0x1F14B, "acEfEoacElDwacElEladEiEiEoacEpDvBacEfDvacEfDwacEfEkBjcDwEcEhcSJjSHnacSLnSLnabSLp"⟩,
  ⟨0x1F210, "abBLFvabBIPjabBFTcabSMhabBDTkabBHTiabCAFrabBHTxabBDUiabBMRoabBQVxabBMMjabBFEj"⟩,
  ⟨0x1F21D, "abBKEuabBEWzabBMNgabBFCnabBVLiabBSJfabCBGzabBHRsabBFXhabBQBsabBLIrabBLQbabBDOa"⟩,
  ⟨0x1F22A, "abBDOjabCCQsabBJOoabBDPtabBFUpabBLNbabCBOqabBLGdabBUAjabBUJyabBFVkabBPWaabBNAn"⟩,
  ⟨0x1F237, "abBNAmabBSJzabBFFuabBGLyabCDAredSFkBNBwSFladSFkBDOjSFladSFkBDTkSFladSFkBIRhSFl"⟩,
  ⟨0x1F244, "adSFkBQRxSFladSFkBLGdSFladSFkBTAdSFladSFkBFJxSFladSFkBMJvSFlhbBKFfabBFUlDQsbBw"⟩,
  ⟨0x1FBF1, "abBxabByabBzabCaabCbabCcabCdabCeabCfDRLmbBDQjabBDQeabBDQnabHMIkabBEBoabBEEo"⟩,
  ⟨0x2F806, "abBEFbabBEHuabBEMkabBENpabBEQpabBEPrabTYcabHOGoabBEUnabBEUuabBEVkabBEWdabHNVo"⟩,
  ⟨0x2F813, "abTZdabBEVnabBEWzabHNXjabBEXjabBEXwabBDVwabBEYeabBEYnabJPDnabBFAzabBFBnabUAp"⟩,
  ⟨0x2F820, "abBFDrabBFEcabBFFuabBFFzabUCrabBFJbabBFJdabBFKeabBFLaabBFLlabBFLmabBFMdabBFOb"⟩,
  ⟨0x2F82D, "abBFOjabBFOsabBFPrabBFQbabBFQdabBFQdabBFQdabHPTkabBQPcabBFTaabBFTvabHQFjabBFUh"⟩,
  ⟨0x2F83A, "abBFUnabBFViabBGBeabBFXgabBFXwabBFZcabBGBiabBGEoabBGFoabBGIdabBGItabBGKaabBGKa"⟩,
  ⟨0x2F847, "abBGKvabBGLnabBGLvabBGMkabBGZmabBGPaabBGZnabBGRxabBGTgabBFBrabBHRqabBHGoabBHIa"⟩,
  ⟨0x2F854, "abBHIzabBHDzabBHKkabBHKjabBHPcabHTUyabBHRuabBHRzabBHSoabBHTiabBHTqabBHWcabHUMi"⟩,
  ⟨0x2F861, "abHUOwabBIBkabBIDfabBIDrabBIAqabBIGcabUUwabUVkabBIMiabBIOkabBIOkabHVRcabBITn"⟩,
  ⟨0x2F86E, "abBIUiabBIUxabBIVjabHWEaabBIVvabBIWcabBKCpabBIXeabVAnabBIZoabBJAcabBJDgabBJBh"⟩,
  ⟨0x2F87B, "abHXFoabBJIhabHXFqabBJJyabBJJvabBJKmabBJOjabBJOkabVHfabBJPlabBJRcabBJRxabBJTp"⟩,
  ⟨0x2F888, "abVJeabHYPfabVKeabBJWiabBJWlabBJWoabBJXiabJVVuabBJZiabHZFtabHZFtabBXGbabBKAs"⟩,
  ⟨0x2F895, "abBKAsabVNbabIFCqabIWYsabBKDeabBKDnabVOdabBKFiabBKHhabBKHrabBKIzabBKOfabVRmabVQi"⟩,
  ⟨0x2F8A3, "abBKOyabIAPoabBKQxabBKVwabBKWaabBKWcabBKWaabBKXuabBKYoabBKZyabBKZkabBKZvabBLBq"⟩,
  ⟨0x2F8B0, "abBLCkabBLCoabBLDoabBLDzabBLGnabBLJtabBLLcabBLPwabICFcabBLPdabBLMqabBLQuabBLRv"⟩,
  ⟨0x2F8BD, "abBLVoabICNxabBLXyabBLUjabBLThabWAwabBMArabBMBmabBMCrabBMBfabWDgabBMJnabBMKq"⟩,
  ⟨0x2F8CA, "abIECgabBMPfabBMZwabBMTdabWJxabBMVxabWJgabWHwabBEXeabBEXhabBNAeabBMWiabBWSzabZSb"⟩,
  ⟨0x2F8D8, "abBNBbabBNBfabBNBlabBNDuabBNDjabIFMxabWLtabBNJuabBNFhabBNNeabBNPdabIFTlabBNPm"⟩,
  ⟨0x2F8E5, "abBNLfabBNUqabWOzabBNWkabBOAdabBOCwabBOKeabIGPfabBOMdabWTsabBOOvabIHJbabBOQu"⟩,
  ⟨0x2F8F2, "abWVuabBORyabBOTrabBOUsabBOUtabIIBtabHWXfabIIFyabBPAkabIIXgabBPEtabBPFhabBPBj"⟩,
  ⟨0x2F8FF, "abBPIcabBPJqabBPLvabBPJtabBPLhabBPLwabBPMjabIJBaabBPJgabBPSxabBPViabXEpabBPYx"⟩,
  ⟨0x2F90C, "abBPYtabIJRtabBPQvabBQFeabIJXeabIJZaabBQIoabBQMzabBQLyabBQLvabXIkabBQNqabBQPp"⟩,
  ⟨0x2F919, "abBQPjabBQRlabHNVxabBQXhabILAxabBRAqabILNnabBRGaabBRGnabBRHoabIMKuabBRJkabBRKf"⟩,
  ⟨0x2F926, "abIMWjabINEyabBRTaabBRTrabXTcabBRUrabXToabXToabBSAxabBSBsabBSCnabBSDhabBSFyabXXj"⟩,
  ⟨0x2F934, "abBSJkabIOTqabBSKkabIOXeabBSMiabHYQhabBSSmabIQBhabIQCeabIQHoabYGaabYGmabBTBg"⟩,
  ⟨0x2F941, "abIQOhabIQOgabIQPtabIQQtabBTCwabBTCxabBTCxabBTEoabYIjabBTHbabYIwabYLyabIRTl"⟩,
  ⟨0x2F94E, "abBTOoabBTQyabBTTkabYOxabISNmabBTYsabISRyabISTpabBUAxabBUElabYRvabBUHsabBUIc"⟩,
  ⟨0x2F95B, "abBUIhabITUiabIUFvabIUFvabBUOkabYZyabIUPvabBUWsabBUWvabZBjabIUYaabBVHaabZGa"⟩,
  ⟨0x2F968, "abBVHwabBVHrabBVIuabIWBuabBVMpabZJtabBVQlabBVSsabBVVhabZLsabIXBsabIXCxabZNd"⟩,
  ⟨0x2F975, "abIXInabBWHeabIXMkabBWIfabBWMcabBWMnabIYCgabIYFbabBWQaabIYKeabBWQqabIFJbabZRx"⟩,
  ⟨0x2F982, "abBWTeabBWWhabZTzabBWYoabBIJdabIZDvabIZEjabIFLbabIFLkabBXGbabBXGeabCCKcabZXr"⟩,
  ⟨0x2F98F, "abBXLpabBXLjabBXMbabBFIhabBXMvabBXMxabBXNhabBXOwabJANcabBXOvabBXQzabBXTrabBXWn"⟩,
  ⟨0x2F99C, "abBXRfabBXXdabBXYtabBYDbabBXTbabBXXqabBXXsabBXYiabJAWsabJBIpabJBCvabBAFbabBYIz"⟩,
  ⟨0x2F9A9, "abBYJbabBYKkabJDTiabBYNkabJBZwabBAGzabBAHdabJCEzabJCQcabBAHnabBYWmabBYWyabBYXj"⟩,
  ⟨0x2F9B6, "abBYXlabBYZxabBYYqabBZDuabBZCcabBZHxabBZEuabBZHjabBZIkabBALrabBZLxabBZNdabBAMz"⟩,
  ⟨0x2F9C3, "abBZQuabBZQxabJETbabBZVjabBZVqabBAPhabBZWsabTZfabJFPmabJFWoabBAUoabBAUxabCAMy"⟩,
  ⟨0x2F9D0, "abCAPxabCAVyabCBDtabJHCqabCBHbabCBHxabCBLjabCBOxabJIBnabHOYeabCBSdabCBRoabCBTo"⟩,
  ⟨0x2F9DD, "abHPGoabCCCiabCCGeabJKOwabJKPxabCCToabCCXdabCCYjabJLCgabCCYtabCDJsabCDPvabCDPw"⟩,
  ⟨0x2F9EA, "abCDMiabCEAzabCECbabJMXmabCEQlabBBWnabCESdabJNMdabBBZqabCFClabBJMoabCFGdabJOXp"⟩,
  ⟨0x2F9F7, "abJPFuabBCEwabBCFeabCFNkabJPYwabBCHmabJQEgabCFPbabCFPbabCFQfabJQPiabCFXiabBCMl"⟩,
  ⟨0x2FA04, "abCGAbabCGExabCGFyabCGIgabBCSkabJSRgabCGSwabCHEmabCHLtabBDCgabBDDlabCHPvabJUUo"⟩,
  ⟨0x2FA11, "abBDDwabJUWrabJVGwabJVLxabCICxabBDHmabCIFhabCIFmabCIFtabCIGdabCIGkabCIHvabJWTs"⟩]

end SecureSockets.Idna.Mapping
