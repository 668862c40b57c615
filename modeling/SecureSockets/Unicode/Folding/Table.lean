import SecureSockets.Unicode.Table

namespace SecureSockets.Unicode.Folding

/-!
Simple case folding of the Unicode character database, version 17.0: to each
character that folding identifies with others, the code points of those others.
-/

def rows : List Row := [
  ⟨0x0041, "abDtabDuabDvabDwabDxabDyabDzabEaabEbabEcacEdMOoabEeabEfabEgabEhabEiabEjabEk"⟩,
  ⟨0x0053, "acElOtabEmabEnabEoabEpabEqabErabEsgbCnabCoabCpabCqabCrabCsabCtabCuabCvabCw"⟩,
  ⟨0x006B, "acCxMOoabCyabCzabDaabDbabDcabDdabDeacDfOtabDgabDhabDiabDjabDkabDlabDmCgcBJoBKu"⟩,
  ⟨0x00C0, "abIqabIrabIsabItabIuacIvMOpabIwabIxabIyabIzabJaabJbabJcabJdabJeabJfabJgabJhabJi"⟩,
  ⟨0x00D3, "abJjabJkabJlabJmbbJoabJpabJqabJrabJsabJtabJuabLPmabHkabHlabHmabHnabHoacHpMOpabHq"⟩,
  ⟨0x00E7, "abHrabHsabHtabHuabHvabHwabHxabHyabHzabIaabIbabIcabIdabIeabIfabIgbbIiabIjabIkabIl"⟩,
  ⟨0x00FC, "abImabInabIoabOmabJxabJwabJzabJyabKbabKaabKdabKcabKfabKeabKhabKgabKjabKiabKlabKk"⟩,
  ⟨0x0110, "abKnabKmabKpabKoabKrabKqabKtabKsabKvabKuabKxabKwabKzabKyabLbabLaabLdabLcabLfabLe"⟩,
  ⟨0x0124, "abLhabLgabLjabLiabLlabLkabLnabLmabLpabLoabLrabLqcbLvabLuabLxabLwabLzabLybbMcabMb"⟩,
  ⟨0x013B, "abMeabMdabMgabMfabMiabMhabMkabMjabMmabMlabMoabMnabMqabMpbbMtabMsabMvabMuabMxabMw"⟩,
  ⟨0x0150, "abMzabMyabNbabNaabNdabNcabNfabNeabNhabNgabNjabNiabNlabNkabNnabNmabNpabNoabNrabNq"⟩,
  ⟨0x0164, "abNtabNsabNvabNuabNxabNwabNzabNyabObabOaabOdabOcabOfabOeabOhabOgabOjabOiabOlabOk"⟩,
  ⟨0x0178, "abJvabOoabOnabOqabOpabOsabOracDfElabWhabWxabOxabOwabOzabOyabWyabPcabPbabXaabXb"⟩,
  ⟨0x018B, "abPgabPfbbSjabXdabXfabPmabPlabXkabXnabTiabXtabXsabPtabPsabWbabCLOuabXzabYcabUy"⟩,
  ⟨0x019F, "abYfabQbabQaabQdabQcabQfabQeabYqabQiabQhabYtcbQnabQmabYyabQqabQpabZaabZbabQuabQt"⟩,
  ⟨0x01B5, "abQwabQvabZiabQzabQycbRdabRcbbTjecRlRmacRkRmacRkRlacRoRpacRnRpacRnRoacRrRsacRqRs"⟩,
  ⟨0x01CC, "acRqRrabRuabRtabRwabRvabRyabRxabSaabRzabScabSbabSeabSdabSgabSfabSiabShabPiabSl"⟩,
  ⟨0x01DF, "abSkabSnabSmabSpabSoabSrabSqabStabSsabSvabSuabSxabSwabSzabSyabTbabTabcTeTfacTdTf"⟩,
  ⟨0x01F3, "acTdTeabThabTgabPpabRfabTlabTkabTnabTmabTpabToabTrabTqabTtabTsabTvabTuabTxabTw"⟩,
  ⟨0x0206, "abTzabTyabUbabUaabUdabUcabUfabUeabUhabUgabUjabUiabUlabUkabUnabUmabUpabUoabUrabUq"⟩,
  ⟨0x021A, "abUtabUsabUvabUuabUxabUwabPybbVbabVaabVdabVcabVfabVeabVhabVgabVjabViabVlabVkabVn"⟩,
  ⟨0x022F, "abVmabVpabVoabVrabVqgbQVdabWaabVzabPuabQVeabQWcabQWdabWgabWfabOuabYzabZcabWlabWk"⟩,
  ⟨0x0248, "abWnabWmabWpabWoabWrabWqabWtabWsabQVnabQVlabQVoabOvabPabbPdabPebbPjbbPkabCLMx"⟩,
  ⟨0x0260, "abPnabCLMybbPoabCLOdabCLLtabCLMwbbPrabPqabCLNaabQVaabCLMzcbPwbbQVmabPxcbPzhbQVc"⟩,
  ⟨0x0280, "abQgbbCLNxabQjdbCLNdabQoabWiabQrabQsabWjfbQxkbCLNeabCLNcGkdBJlBKrMAoBqbBHxabBHw"⟩,
  ⟨0x0372, "abBHzabBHycbBIdabBIcdbBNhabBNiabBNjbbBMxgbBKebbBKfabBKgabBKhbbBLkbbBLlabBLmabMBj"⟩,
  ⟨0x0391, "abBKjacBKkBLoabBKlabBKmacBKnBMzabBKoabBKpadBKqBLpBMyadBGfBKrMAoacBKsBMuabBKt"⟩,
  ⟨0x039C, "acGzBKuabBKvabBKwabBKxacBKyBLuacBKzBMvbcBLaBLbabBLcabBLdacBLeBLtabBLfabBLg"⟩,
  ⟨0x03A9, "acBLhMOkabBLiabBLjabBIsabBIuabBIvabBIwabMBzabBJdacBJeBLoabBJfabBJgacBJhBMzabBJi"⟩,
  ⟨0x03B7, "abBJjadBJkBLpBMyadBGfBJlMAoacBJmBMuabBJnacGzBJoabBJpabBJqabBJracBJsBLuacBJtBMv"⟩,
  ⟨0x03C2, "acBJvBLbacBJvBLaabBJwabBJxacBJyBLtabBJzabBKaacBKbMOkabBKcabBKdabBIyabBJaabBJb"⟩,
  ⟨0x03CF, "abBLvacBJeBKkadBJkBKqBMydcBJyBLeacBJsBKyabBLnabBLxabBLwabBLzabBLyabBMbabBMaabBMd"⟩,
  ⟨0x03DF, "abBMcabBMfabBMeabBMhabBMgabBMjabBMiabBMlabBMkabBMnabBMmabBMpabBMoabBMrabBMqabBMt"⟩,
  ⟨0x03EF, "abBMsacBJmBKsacBJtBKzabBNdabBIladBJkBKqBLpacBJhBKnbbBNcabBNbabBMwabBNfabBNebbBIh"⟩,
  ⟨0x03FE, "abBIiabBIjabBQmabBQnabBQoabBQpabBQqabBQrabBQsabBQtabBQuabBQvabBQwabBQxabBQyabBQz"⟩,
  ⟨0x040E, "abBRaabBRbabBPgabBPhacBPiKUqabBPjacBPkKUrabBPlabBPmabBPnabBPoabBPpabBPqabBPr"⟩,
  ⟨0x041C, "abBPsabBPtacBPuKUsabBPvabBPwacBPxKUtadBPyKUuKUvabBPzabBQaabBQbabBQcabBQdabBQe"⟩,
  ⟨0x0429, "abBQfacBQgKUwabBQhabBQiabBQjabBQkabBQlabBOaabBObacBOcKUqabBOdacBOeKUrabBOfabBOg"⟩,
  ⟨0x0437, "abBOhabBOiabBOjabBOkabBOlabBOmabBOnacBOoKUsabBOpabBOqacBOrKUtadBOsKUuKUvabBOt"⟩,
  ⟨0x0444, "abBOuabBOvabBOwabBOxabBOyabBOzacBPaKUwabBPbabBPcabBPdabBPeabBPfabBNkabBNlabBNm"⟩,
  ⟨0x0453, "abBNnabBNoabBNpabBNqabBNrabBNsabBNtabBNuabBNvabBNwabBNxabBNyabBNzabBRdabBRc"⟩,
  ⟨0x0462, "acBRfKUxacBReKUxabBRhabBRgabBRjabBRiabBRlabBRkabBRnabBRmabBRpabBRoabBRrabBRq"⟩,
  ⟨0x0470, "abBRtabBRsabBRvabBRuabBRxabBRwabBRzabBRyabBSbabBSaabBSdabBScabBSfabBSeabBShabBSg"⟩,
  ⟨0x0480, "abBSjabBSiibBStabBSsabBSvabBSuabBSxabBSwabBSzabBSyabBTbabBTaabBTdabBTcabBTfabBTe"⟩,
  ⟨0x0498, "abBThabBTgabBTjabBTiabBTlabBTkabBTnabBTmabBTpabBToabBTrabBTqabBTtabBTsabBTvabBTu"⟩,
  ⟨0x04A8, "abBTxabBTwabBTzabBTyabBUbabBUaabBUdabBUcabBUfabBUeabBUhabBUgabBUjabBUiabBUlabBUk"⟩,
  ⟨0x04B8, "abBUnabBUmabBUpabBUoabBUrabBUqabBUtabBUsabBVjabBUwabBUvabBUyabBUxabBVaabBUzabBVc"⟩,
  ⟨0x04C8, "abBVbabBVeabBVdabBVgabBVfabBViabBVhabBUuabBVlabBVkabBVnabBVmabBVpabBVoabBVrabBVq"⟩,
  ⟨0x04D8, "abBVtabBVsabBVvabBVuabBVxabBVwabBVzabBVyabBWbabBWaabBWdabBWcabBWfabBWeabBWhabBWg"⟩,
  ⟨0x04E8, "abBWjabBWiabBWlabBWkabBWnabBWmabBWpabBWoabBWrabBWqabBWtabBWsabBWvabBWuabBWxabBWw"⟩,
  ⟨0x04F8, "abBWzabBWyabBXbabBXaabBXdabBXcabBXfabBXeabBXhabBXgabBXjabBXiabBXlabBXkabBXnabBXm"⟩,
  ⟨0x0508, "abBXpabBXoabBXrabBXqabBXtabBXsabBXvabBXuabBXxabBXwabBXzabBXyabBYbabBYaabBYdabBYc"⟩,
  ⟨0x0518, "abBYfabBYeabBYhabBYgabBYjabBYiabBYlabBYkabBYnabBYmabBYpabBYoabBYrabBYqabBYtabBYs"⟩,
  ⟨0x0528, "abBYvabBYuabBYxabBYwabBYzabBYyabBZbabBZabbCAzabCBaabCBbabCBcabCBdabCBeabCBfabCBg"⟩,
  ⟨0x0539, "abCBhabCBiabCBjabCBkabCBlabCBmabCBnabCBoabCBpabCBqabCBrabCBsabCBtabCBuabCBvabCBw"⟩,
  ⟨0x0549, "abCBxabCByabCBzabCCaabCCbabCCcabCCdabCCeabCCfabCCgabCChabCCiabCCjabCCkkbBZdabBZe"⟩,
  ⟨0x0563, "abBZfabBZgabBZhabBZiabBZjabBZkabBZlabBZmabBZnabBZoabBZpabBZqabBZrabBZsabBZtabBZu"⟩,
  ⟨0x0573, "abBZvabBZwabBZxabBZyabBZzabCAaabCAbabCAcabCAdabCAeabCAfabCAgabCAhabCAiabCAjabCAk"⟩,
  ⟨0x0583, "abCAlabCAmabCAnabCAoEFhbRBcabRBdabRBeabRBfabRBgabRBhabRBiabRBjabRBkabRBlabRBm"⟩,
  ⟨0x10AB, "abRBnabRBoabRBpabRBqabRBrabRBsabRBtabRBuabRBvabRBwabRBxabRByabRBzabRCaabRCbabRCc"⟩,
  ⟨0x10BB, "abRCdabRCeabRCfabRCgabRChabRCiabRCjabRCkabRClabRCmabRCnbbRCpfbRCvcbKVgabKVhabKVi"⟩,
  ⟨0x10D3, "abKVjabKVkabKVlabKVmabKVnabKVoabKVpabKVqabKVrabKVsabKVtabKVuabKVvabKVwabKVxabKVy"⟩,
  ⟨0x10E3, "abKVzabKWaabKWbabKWcabKWdabKWeabKWfabKWgabKWhabKWiabKWjabKWkabKWlabKWmabKWnabKWo"⟩,
  ⟨0x10F3, "abKWpabKWqabKWrabKWsabKWtabKWuabKWvabKWwcbKWzabKXaabKXbZwbCMYaabCMYbabCMYcabCMYd"⟩,
  ⟨0x13A4, "abCMYeabCMYfabCMYgabCMYhabCMYiabCMYjabCMYkabCMYlabCMYmabCMYnabCMYoabCMYpabCMYq"⟩,
  ⟨0x13B1, "abCMYrabCMYsabCMYtabCMYuabCMYvabCMYwabCMYxabCMYyabCMYzabCMZaabCMZbabCMZcabCMZd"⟩,
  ⟨0x13BE, "abCMZeabCMZfabCMZgabCMZhabCMZiabCMZjabCMZkabCMZlabCMZmabCMZnabCMZoabCMZpabCMZq"⟩,
  ⟨0x13CB, "abCMZrabCMZsabCMZtabCMZuabCMZvabCMZwabCMZxabCMZyabCMZzabCNAaabCNAbabCNAcabCNAd"⟩,
  ⟨0x13D8, "abCNAeabCNAfabCNAgabCNAhabCNAiabCNAjabCNAkabCNAlabCNAmabCNAnabCNAoabCNApabCNAq"⟩,
  ⟨0x13E5, "abCNArabCNAsabCNAtabCNAuabCNAvabCNAwabCNAxabCNAyabCNAzabCNBaabCNBbabHOqabHOr"⟩,
  ⟨0x13F2, "abHOsabHOtabHOuabHOvcbHOiabHOjabHOkabHOlabHOmabHOnDFucBOcBPiacBOeBPkacBOoBPu"⟩,
  ⟨0x1C83, "acBOrBPxadBOsBPyKUvadBOsBPyKUuacBPaBQgacBReBRfacCKZiCKZjabKVaabKUzfbGJoabGJp"⟩,
  ⟨0x1C92, "abGJqabGJrabGJsabGJtabGJuabGJvabGJwabGJxabGJyabGJzabGKaabGKbabGKcabGKdabGKeabGKf"⟩,
  ⟨0x1CA2, "abGKgabGKhabGKiabGKjabGKkabGKlabGKmabGKnabGKoabGKpabGKqabGKrabGKsabGKtabGKuabGKv"⟩,
  ⟨0x1CB2, "abGKwabGKxabGKyabGKzabGLaabGLbabGLcabGLdabGLecbGLhabGLiabGLjHdbCLLddbQVbqbCLNy"⟩,
  ⟨0x1E00, "abLJlabLJkabLJnabLJmabLJpabLJoabLJrabLJqabLJtabLJsabLJvabLJuabLJxabLJwabLJzabLJy"⟩,
  ⟨0x1E10, "abLKbabLKaabLKdabLKcabLKfabLKeabLKhabLKgabLKjabLKiabLKlabLKkabLKnabLKmabLKpabLKo"⟩,
  ⟨0x1E20, "abLKrabLKqabLKtabLKsabLKvabLKuabLKxabLKwabLKzabLKyabLLbabLLaabLLdabLLcabLLfabLLe"⟩,
  ⟨0x1E30, "abLLhabLLgabLLjabLLiabLLlabLLkabLLnabLLmabLLpabLLoabLLrabLLqabLLtabLLsabLLvabLLu"⟩,
  ⟨0x1E40, "abLLxabLLwabLLzabLLyabLMbabLMaabLMdabLMcabLMfabLMeabLMhabLMgabLMjabLMiabLMlabLMk"⟩,
  ⟨0x1E50, "abLMnabLMmabLMpabLMoabLMrabLMqabLMtabLMsabLMvabLMuabLMxabLMwabLMzabLMyabLNbabLNa"⟩,
  ⟨0x1E60, "acLNdLPjacLNcLPjabLNfabLNeabLNhabLNgabLNjabLNiabLNlabLNkabLNnabLNmabLNpabLNo"⟩,
  ⟨0x1E6E, "abLNrabLNqabLNtabLNsabLNvabLNuabLNxabLNwabLNzabLNyabLObabLOaabLOdabLOcabLOfabLOe"⟩,
  ⟨0x1E7E, "abLOhabLOgabLOjabLOiabLOlabLOkabLOnabLOmabLOpabLOoabLOrabLOqabLOtabLOsabLOvabLOu"⟩,
  ⟨0x1E8E, "abLOxabLOwabLOzabLOyabLPbabLPaabLPdabLPcfcLNcLNdcbIpbbLPpabLPoabLPrabLPqabLPt"⟩,
  ⟨0x1EA5, "abLPsabLPvabLPuabLPxabLPwabLPzabLPyabLQbabLQaabLQdabLQcabLQfabLQeabLQhabLQgabLQj"⟩,
  ⟨0x1EB5, "abLQiabLQlabLQkabLQnabLQmabLQpabLQoabLQrabLQqabLQtabLQsabLQvabLQuabLQxabLQwabLQz"⟩,
  ⟨0x1EC5, "abLQyabLRbabLRaabLRdabLRcabLRfabLReabLRhabLRgabLRjabLRiabLRlabLRkabLRnabLRmabLRp"⟩,
  ⟨0x1ED5, "abLRoabLRrabLRqabLRtabLRsabLRvabLRuabLRxabLRwabLRzabLRyabLSbabLSaabLSdabLScabLSf"⟩,
  ⟨0x1EE5, "abLSeabLShabLSgabLSjabLSiabLSlabLSkabLSnabLSmabLSpabLSoabLSrabLSqabLStabLSsabLSv"⟩,
  ⟨0x1EF5, "abLSuabLSxabLSwabLSzabLSyabLTbabLTaabLTdabLTcabLTfabLTeabLToabLTpabLTqabLTrabLTs"⟩,
  ⟨0x1F05, "abLTtabLTuabLTvabLTgabLThabLTiabLTjabLTkabLTlabLTmabLTnabLUeabLUfabLUgabLUhabLUi"⟩,
  ⟨0x1F15, "abLUjcbLTwabLTxabLTyabLTzabLUaabLUbcbLUuabLUvabLUwabLUxabLUyabLUzabLVaabLVbabLUm"⟩,
  ⟨0x1F29, "abLUnabLUoabLUpabLUqabLUrabLUsabLUtabLVkabLVlabLVmabLVnabLVoabLVpabLVqabLVrabLVc"⟩,
  ⟨0x1F39, "abLVdabLVeabLVfabLVgabLVhabLViabLVjabLWaabLWbabLWcabLWdabLWeabLWfcbLVsabLVtabLVu"⟩,
  ⟨0x1F4B, "abLVvabLVwabLVxdbLWrbbLWtbbLWvbbLWxbbLWjbbLWlbbLWnbbLWpabLXgabLXhabLXiabLXjabLXk"⟩,
  ⟨0x1F65, "abLXlabLXmabLXnabLWyabLWzabLXaabLXbabLXcabLXdabLXeabLXfabMAkabMAlabMAyabMAzabMBa"⟩,
  ⟨0x1F75, "abMBbabMBqabMBrabMCuabMCvabMCgabMChabMCwabMCxcbLYmabLYnabLYoabLYpabLYqabLYrabLYs"⟩,
  ⟨0x1F87, "abLYtabLYeabLYfabLYgabLYhabLYiabLYjabLYkabLYlabLZcabLZdabLZeabLZfabLZgabLZhabLZi"⟩,
  ⟨0x1F97, "abLZjabLYuabLYvabLYwabLYxabLYyabLYzabLZaabLZbabLZsabLZtabLZuabLZvabLZwabLZxabLZy"⟩,
  ⟨0x1FA7, "abLZzabLZkabLZlabLZmabLZnabLZoabLZpabLZqabLZrabMAiabMAjbbMAmebMAaabMAbabLXoabLXp"⟩,
  ⟨0x1FBC, "abMAdbdBGfBJlBKrebMBcebLXqabLXrabLXsabLXtabMAtdbMBoabMBpbbBJcebMBgabMBhabLXu"⟩,
  ⟨0x1FDB, "abLXvebMCeabMCfbbBKibbMCicbMBwabMBxabLXyabLXzabMCbgbMCyebLXwabLXxabLYaabLYbabMCp"⟩,
  ⟨0x2126, "acBKbBLhdcCxEdacHpIvgbMPyBbbMOwrbMRgabMRhabMRiabMRjabMRkabMRlabMRmabMRnabMRo"⟩,
  ⟨0x2169, "abMRpabMRqabMRrabMRsabMRtabMRuabMRvabMQqabMQrabMQsabMQtabMQuabMQvabMQwabMQxabMQy"⟩,
  ⟨0x2179, "abMQzabMRaabMRbabMRcabMRdabMReabMRfdbMSaabMRzBFlbNYmabNYnabNYoabNYpabNYqabNYr"⟩,
  ⟨0x24BC, "abNYsabNYtabNYuabNYvabNYwabNYxabNYyabNYzabNZaabNZbabNZcabNZdabNZeabNZfabNZgabNZh"⟩,
  ⟨0x24CC, "abNZiabNZjabNZkabNZlabNXmabNXnabNXoabNXpabNXqabNXrabNXsabNXtabNXuabNXvabNXwabNXx"⟩,
  ⟨0x24DC, "abNXyabNXzabNYaabNYbabNYcabNYdabNYeabNYfabNYgabNYhabNYiabNYjabNYkabNYlCRubQTc"⟩,
  ⟨0x2C01, "abQTdabQTeabQTfabQTgabQThabQTiabQTjabQTkabQTlabQTmabQTnabQToabQTpabQTqabQTrabQTs"⟩,
  ⟨0x2C11, "abQTtabQTuabQTvabQTwabQTxabQTyabQTzabQUaabQUbabQUcabQUdabQUeabQUfabQUgabQUhabQUi"⟩,
  ⟨0x2C21, "abQUjabQUkabQUlabQUmabQUnabQUoabQUpabQUqabQUrabQUsabQUtabQUuabQUvabQUwabQUxabQRg"⟩,
  ⟨0x2C31, "abQRhabQRiabQRjabQRkabQRlabQRmabQRnabQRoabQRpabQRqabQRrabQRsabQRtabQRuabQRvabQRw"⟩,
  ⟨0x2C41, "abQRxabQRyabQRzabQSaabQSbabQScabQSdabQSeabQSfabQSgabQShabQSiabQSjabQSkabQSlabQSm"⟩,
  ⟨0x2C51, "abQSnabQSoabQSpabQSqabQSrabQSsabQStabQSuabQSvabQSwabQSxabQSyabQSzabQTaabQTbabQUz"⟩,
  ⟨0x2C61, "abQUyabXvabLEjabYnabVyabWcabQVgabQVfabQViabQVhabQVkabQVjabWvabYbabWuabWwbbQVr"⟩,
  ⟨0x2C73, "abQVqbbQVuabQVthbWdabWeabQWfabQWeabQWhabQWgabQWjabQWiabQWlabQWkabQWnabQWmabQWp"⟩,
  ⟨0x2C8B, "abQWoabQWrabQWqabQWtabQWsabQWvabQWuabQWxabQWwabQWzabQWyabQXbabQXaabQXdabQXcabQXf"⟩,
  ⟨0x2C9B, "abQXeabQXhabQXgabQXjabQXiabQXlabQXkabQXnabQXmabQXpabQXoabQXrabQXqabQXtabQXsabQXv"⟩,
  ⟨0x2CAB, "abQXuabQXxabQXwabQXzabQXyabQYbabQYaabQYdabQYcabQYfabQYeabQYhabQYgabQYjabQYiabQYl"⟩,
  ⟨0x2CBB, "abQYkabQYnabQYmabQYpabQYoabQYrabQYqabQYtabQYsabQYvabQYuabQYxabQYwabQYzabQYyabQZb"⟩,
  ⟨0x2CCB, "abQZaabQZdabQZcabQZfabQZeabQZhabQZgabQZjabQZiabQZlabQZkabQZnabQZmabQZpabQZoabQZr"⟩,
  ⟨0x2CDB, "abQZqabQZtabQZsabQZvabQZuabQZxabQZwabQZzabQZyhbRAiabRAhabRAkabRAjdbRApabRAombGHs"⟩,
  ⟨0x2D01, "abGHtabGHuabGHvabGHwabGHxabGHyabGHzabGIaabGIbabGIcabGIdabGIeabGIfabGIgabGIhabGIi"⟩,
  ⟨0x2D11, "abGIjabGIkabGIlabGImabGInabGIoabGIpabGIqabGIrabGIsabGItabGIuabGIvabGIwabGIxabGIy"⟩,
  ⟨0x2D21, "abGIzabGJaabGJbabGJcabGJdbbGJffbGJlBTWcbCKYzabCKYyabCKZbabCKZaabCKZdabCKZcabCKZf"⟩,
  ⟨0xA647, "abCKZeabCKZhabCKZgacKUyCKZjacKUyCKZiabCKZlabCKZkabCKZnabCKZmabCKZpabCKZoabCKZr"⟩,
  ⟨0xA653, "abCKZqabCKZtabCKZsabCKZvabCKZuabCKZxabCKZwabCKZzabCKZyabCLAbabCLAaabCLAdabCLAc"⟩,
  ⟨0xA660, "abCLAfabCLAeabCLAhabCLAgabCLAjabCLAiabCLAlabCLAkabCLAnabCLAmabCLApabCLAoabCLAr"⟩,
  ⟨0xA66D, "abCLAqsbCLBlabCLBkabCLBnabCLBmabCLBpabCLBoabCLBrabCLBqabCLBtabCLBsabCLBvabCLBu"⟩,
  ⟨0xA68C, "abCLBxabCLBwabCLBzabCLByabCLCbabCLCaabCLCdabCLCcabCLCfabCLCeabCLChabCLCgabCLCj"⟩,
  ⟨0xA699, "abCLCiabCLClabCLCkFebCLHrabCLHqabCLHtabCLHsabCLHvabCLHuabCLHxabCLHwabCLHzabCLHy"⟩,
  ⟨0xA72C, "abCLIbabCLIaabCLIdabCLIccbCLIhabCLIgabCLIjabCLIiabCLIlabCLIkabCLInabCLImabCLIp"⟩,
  ⟨0xA73B, "abCLIoabCLIrabCLIqabCLItabCLIsabCLIvabCLIuabCLIxabCLIwabCLIzabCLIyabCLJbabCLJa"⟩,
  ⟨0xA748, "abCLJdabCLJcabCLJfabCLJeabCLJhabCLJgabCLJjabCLJiabCLJlabCLJkabCLJnabCLJmabCLJp"⟩,
  ⟨0xA755, "abCLJoabCLJrabCLJqabCLJtabCLJsabCLJvabCLJuabCLJxabCLJwabCLJzabCLJyabCLKbabCLKa"⟩,
  ⟨0xA762, "abCLKdabCLKcabCLKfabCLKeabCLKhabCLKgabCLKjabCLKiabCLKlabCLKkabCLKnabCLKmabCLKp"⟩,
  ⟨0xA76F, "abCLKojbCLLaabCLKzabCLLcabCLLbabLEfabCLLfabCLLeabCLLhabCLLgabCLLjabCLLiabCLLl"⟩,
  ⟨0xA785, "abCLLkabCLLnabCLLmdbCLLsabCLLrabXpcbCLLxabCLLwabCLLzabCLLyabCLNwbbCLMdabCLMc"⟩,
  ⟨0xA798, "abCLMfabCLMeabCLMhabCLMgabCLMjabCLMiabCLMlabCLMkabCLMnabCLMmabCLMpabCLMoabCLMr"⟩,
  ⟨0xA7A5, "abCLMqabCLMtabCLMsabCLMvabCLMuabXqabXgabXlabXwabXubbZuabYxabZtabCMWxabCLNhabCLNg"⟩,
  ⟨0xA7B6, "abCLNjabCLNiabCLNlabCLNkabCLNnabCLNmabCLNpabCLNoabCLNrabCLNqabCLNtabCLNsabCLNv"⟩,
  ⟨0xA7C3, "abCLNuabCLMaabYsabLFaabCLOaabCLNzabCLOcabCLObabXoabCLOfabCLOeabCLOhabCLOgabCLOj"⟩,
  ⟨0xA7D1, "abCLOiabCLOlabCLOkabCLOnabCLOmabCLOpabCLOoabCLOrabCLOqabCLOtabCLOsabPvybCLPu"⟩,
  ⟨0xA7F6, "abCLPtBHcbCLNfBcbHLgabHLhabHLiabHLjabHLkabHLlabHLmabHLnabHLoabHLpabHLqabHLrabHLs"⟩,
  ⟨0xAB7D, "abHLtabHLuabHLvabHLwabHLxabHLyabHLzabHMaabHMbabHMcabHMdabHMeabHMfabHMgabHMhabHMi"⟩,
  ⟨0xAB8D, "abHMjabHMkabHMlabHMmabHMnabHMoabHMpabHMqabHMrabHMsabHMtabHMuabHMvabHMwabHMxabHMy"⟩,
  ⟨0xAB9D, "abHMzabHNaabHNbabHNcabHNdabHNeabHNfabHNgabHNhabHNiabHNjabHNkabHNlabHNmabHNnabHNo"⟩,
  ⟨0xABAD, "abHNpabHNqabHNrabHNsabHNtabHNuabHNvabHNwabHNxabHNyabHNzabHOaabHObabHOcabHOdabHOe"⟩,
  ⟨0xABBD, "abHOfabHOgabHOhBEAnbDRBqabDRBpBOkbDSRhabDSRiabDSRjabDSRkabDSRlabDSRmabDSRnabDSRo"⟩,
  ⟨0xFF29, "abDSRpabDSRqabDSRrabDSRsabDSRtabDSRuabDSRvabDSRwabDSRxabDSRyabDSRzabDSSaabDSSb"⟩,
  ⟨0xFF36, "abDSScabDSSdabDSSeabDSSfabDSSggbDSQbabDSQcabDSQdabDSQeabDSQfabDSQgabDSQhabDSQi"⟩,
  ⟨0xFF49, "abDSQjabDSQkabDSQlabDSQmabDSQnabDSQoabDSQpabDSQqabDSQrabDSQsabDSQtabDSQuabDSQv"⟩,
  ⟨0xFF56, "abDSQwabDSQxabDSQyabDSQzabDSRaBTtbDUNoabDUNpabDUNqabDUNrabDUNsabDUNtabDUNuabDUNv"⟩,
  ⟨0x10408, "abDUNwabDUNxabDUNyabDUNzabDUOaabDUObabDUOcabDUOdabDUOeabDUOfabDUOgabDUOhabDUOi"⟩,
  ⟨0x10415, "abDUOjabDUOkabDUOlabDUOmabDUOnabDUOoabDUOpabDUOqabDUOrabDUOsabDUOtabDUOuabDUOv"⟩,
  ⟨0x10422, "abDUOwabDUOxabDUOyabDUOzabDUPaabDUPbabDUMaabDUMbabDUMcabDUMdabDUMeabDUMfabDUMg"⟩,
  ⟨0x1042F, "abDUMhabDUMiabDUMjabDUMkabDUMlabDUMmabDUMnabDUMoabDUMpabDUMqabDUMrabDUMsabDUMt"⟩,
  ⟨0x1043C, "abDUMuabDUMvabDUMwabDUMxabDUMyabDUMzabDUNaabDUNbabDUNcabDUNdabDUNeabDUNfabDUNg"⟩,
  ⟨0x10449, "abDUNhabDUNiabDUNjabDUNkabDUNlabDUNmabDUNnDsbDUUiabDUUjabDUUkabDUUlabDUUmabDUUn"⟩,
  ⟨0x104B6, "abDUUoabDUUpabDUUqabDUUrabDUUsabDUUtabDUUuabDUUvabDUUwabDUUxabDUUyabDUUzabDUVa"⟩,
  ⟨0x104C3, "abDUVbabDUVcabDUVdabDUVeabDUVfabDUVgabDUVhabDUViabDUVjabDUVkabDUVlabDUVmabDUVn"⟩,
  ⟨0x104D0, "abDUVoabDUVpabDUVqabDUVrebDUSuabDUSvabDUSwabDUSxabDUSyabDUSzabDUTaabDUTbabDUTc"⟩,
  ⟨0x104E1, "abDUTdabDUTeabDUTfabDUTgabDUThabDUTiabDUTjabDUTkabDUTlabDUTmabDUTnabDUToabDUTp"⟩,
  ⟨0x104EE, "abDUTqabDUTrabDUTsabDUTtabDUTuabDUTvabDUTwabDUTxabDUTyabDUTzabDUUaabDUUbabDUUc"⟩,
  ⟨0x104FB, "abDUUdEmbDVBrabDVBsabDVBtabDVBuabDVBvabDVBwabDVBxabDVByabDVBzabDVCaabDVCbbbDVCd"⟩,
  ⟨0x1057D, "abDVCeabDVCfabDVCgabDVChabDVCiabDVCjabDVCkabDVClabDVCmabDVCnabDVCoabDVCpabDVCq"⟩,
  ⟨0x1058A, "abDVCrbbDVCtabDVCuabDVCvabDVCwabDVCxabDVCyabDVCzbbDVDbabDVDcbbDVAeabDVAfabDVAg"⟩,
  ⟨0x1059A, "abDVAhabDVAiabDVAjabDVAkabDVAlabDVAmabDVAnabDVAobbDVAqabDVArabDVAsabDVAtabDVAu"⟩,
  ⟨0x105A8, "abDVAvabDVAwabDVAxabDVAyabDVAzabDVBaabDVBbabDVBcabDVBdabDVBebbDVBgabDVBhabDVBi"⟩,
  ⟨0x105B6, "abDVBjabDVBkabDVBlabDVBmbbDVBoabDVBpCOpbDXUeabDXUfabDXUgabDXUhabDXUiabDXUjabDXUk"⟩,
  ⟨0x10C87, "abDXUlabDXUmabDXUnabDXUoabDXUpabDXUqabDXUrabDXUsabDXUtabDXUuabDXUvabDXUwabDXUx"⟩,
  ⟨0x10C94, "abDXUyabDXUzabDXVaabDXVbabDXVcabDXVdabDXVeabDXVfabDXVgabDXVhabDXViabDXVjabDXVk"⟩,
  ⟨0x10CA1, "abDXVlabDXVmabDXVnabDXVoabDXVpabDXVqabDXVrabDXVsabDXVtabDXVuabDXVvabDXVwabDXVx"⟩,
  ⟨0x10CAE, "abDXVyabDXVzabDXWaabDXWbabDXWcnbDXRsabDXRtabDXRuabDXRvabDXRwabDXRxabDXRyabDXRz"⟩,
  ⟨0x10CC8, "abDXSaabDXSbabDXScabDXSdabDXSeabDXSfabDXSgabDXShabDXSiabDXSjabDXSkabDXSlabDXSm"⟩,
  ⟨0x10CD5, "abDXSnabDXSoabDXSpabDXSqabDXSrabDXSsabDXStabDXSuabDXSvabDXSwabDXSxabDXSyabDXSz"⟩,
  ⟨0x10CE2, "abDXTaabDXTbabDXTcabDXTdabDXTeabDXTfabDXTgabDXThabDXTiabDXTjabDXTkabDXTlabDXTm"⟩,
  ⟨0x10CEF, "abDXTnabDXToabDXTpabDXTqDpbDYAyabDYAzabDYBaabDYBbabDYBcabDYBdabDYBeabDYBfabDYBg"⟩,
  ⟨0x10D59, "abDYBhabDYBiabDYBjabDYBkabDYBlabDYBmabDYBnabDYBoabDYBpabDYBqabDYBrabDYBsabDYBt"⟩,
  ⟨0x10D70, "abDXZsabDXZtabDXZuabDXZvabDXZwabDXZxabDXZyabDXZzabDYAaabDYAbabDYAcabDYAdabDYAe"⟩,
  ⟨0x10D7D, "abDYAfabDYAgabDYAhabDYAiabDYAjabDYAkabDYAlabDYAmabDYAnEFibECIiabECIjabECIkabECIl"⟩,
  ⟨0x118A4, "abECImabECInabECIoabECIpabECIqabECIrabECIsabECItabECIuabECIvabECIwabECIxabECIy"⟩,
  ⟨0x118B1, "abECIzabECJaabECJbabECJcabECJdabECJeabECJfabECJgabECJhabECJiabECJjabECJkabECJl"⟩,
  ⟨0x118BE, "abECJmabECJnabECHcabECHdabECHeabECHfabECHgabECHhabECHiabECHjabECHkabECHlabECHm"⟩,
  ⟨0x118CB, "abECHnabECHoabECHpabECHqabECHrabECHsabECHtabECHuabECHvabECHwabECHxabECHyabECHz"⟩,
  ⟨0x118D8, "abECIaabECIbabECIcabECIdabECIeabECIfabECIgabECIhBGIqbFITkabFITlabFITmabFITn"⟩,
  ⟨0x16E44, "abFIToabFITpabFITqabFITrabFITsabFITtabFITuabFITvabFITwabFITxabFITyabFITzabFIUa"⟩,
  ⟨0x16E51, "abFIUbabFIUcabFIUdabFIUeabFIUfabFIUgabFIUhabFIUiabFIUjabFIUkabFIUlabFIUmabFIUn"⟩,
  ⟨0x16E5E, "abFIUoabFIUpabFISeabFISfabFISgabFIShabFISiabFISjabFISkabFISlabFISmabFISnabFISo"⟩,
  ⟨0x16E6B, "abFISpabFISqabFISrabFISsabFIStabFISuabFISvabFISwabFISxabFISyabFISzabFITaabFITb"⟩,
  ⟨0x16E78, "abFITcabFITdabFITeabFITfabFITgabFIThabFITiabFITjBgbFIWxabFIWyabFIWzabFIXaabFIXb"⟩,
  ⟨0x16EA5, "abFIXcabFIXdabFIXeabFIXfabFIXgabFIXhabFIXiabFIXjabFIXkabFIXlabFIXmabFIXnabFIXo"⟩,
  ⟨0x16EB2, "abFIXpabFIXqabFIXrabFIXsabFIXtabFIXuabFIXvcbFIVwabFIVxabFIVyabFIVzabFIWaabFIWb"⟩,
  ⟨0x16EC1, "abFIWcabFIWdabFIWeabFIWfabFIWgabFIWhabFIWiabFIWjabFIWkabFIWlabFIWmabFIWnabFIWo"⟩,
  ⟨0x16ECE, "abFIWpabFIWqabFIWrabFIWsabFIWtabFIWuBUGybHDGcabHDGdabHDGeabHDGfabHDGgabHDGh"⟩,
  ⟨0x1E906, "abHDGiabHDGjabHDGkabHDGlabHDGmabHDGnabHDGoabHDGpabHDGqabHDGrabHDGsabHDGtabHDGu"⟩,
  ⟨0x1E913, "abHDGvabHDGwabHDGxabHDGyabHDGzabHDHaabHDHbabHDHcabHDHdabHDHeabHDHfabHDHgabHDHh"⟩,
  ⟨0x1E920, "abHDHiabHDHjabHDEuabHDEvabHDEwabHDExabHDEyabHDEzabHDFaabHDFbabHDFcabHDFdabHDFe"⟩,
  ⟨0x1E92D, "abHDFfabHDFgabHDFhabHDFiabHDFjabHDFkabHDFlabHDFmabHDFnabHDFoabHDFpabHDFqabHDFr"⟩,
  ⟨0x1E93A, "abHDFsabHDFtabHDFuabHDFvabHDFwabHDFxabHDFyabHDFzabHDGaabHDGb"⟩]

end SecureSockets.Unicode.Folding
