import SecureSockets.Unicode.Table

namespace SecureSockets.Unicode.Normal

/-!
What canonical normalization needs of the Unicode character database, version 17.0:
combining classes, full canonical decompositions and primary composites. Hangul
syllables are left out; they follow by arithmetic.
-/

def classRows : List Row := [
  ⟨0x0000, "BDoavIwbIyeImbIybIifImcHueImcHulImfbeImiIwbJgbIwdImdIwcImbadIweImbIwbIycImbIwbIz"⟩,
  ⟨0x035D, "cJabIzcJabIznIwKpafIwKfabImeIwbImdIwbIobImgIwgImcIwbImcIwbIobIubIwbkblbmbnbobpbq"⟩,
  ⟨0x05B7, "brbsctbubvbwbabxbabybzbabIwbImbabsCuaiIwbBebBfbBgBwabBbbBcbBdbBebBfbBgbBhbBicIw"⟩,
  ⟨0x0655, "cImfIwbImcIwbImqabBjDxahIwcaeIwbImbIwcacIwbabImcIwbImBjabBkBeabIwbImcIwbImcIwdIm"⟩,
  ⟨0x073A, "bIwcImbIwbImdIwbImbIwbImbIwbImbIwbImcIwGeahIwbImbIwjabImyaeIwbajIwbadIwbafIwBra"⟩,
  ⟨0x0859, "dImChacIwdImeIwBqafIwfImoIwbabImcIwbImcIwbImdIwdImbBbbBcbBddIwbImcIwcImfIwCiabh"⟩,
  ⟨0x093D, "qabjdabIwbImcIwDzabhqabjBwabIwCjabhqabjEgabhqabjEgabhqabjExabjEgabhqabjhabDgbDn"⟩,
  ⟨0x0C57, "DxabhqabjEfacjqabjEuabjEfacDzbjnaeEdEeacEobjnaeEsCyacImBbabImbabImbabIiCdabEzbFa"⟩,
  ⟨0x0F73, "babFcfaeFacabFabacIwbjbacIwCkabImEiabhbacjDeabImBBradIwBKmacjBeabjGbabjkabIwHva"⟩,
  ⟨0x18A9, "bIuFnabIobIwbImIlabIwbImCtabjuaiIwcabImBwafIwgImcIwbImbacImcIwcImfIwbImsIwbImca"⟩,
  ⟨0x1AE0, "gIwbImeIwbJaCuabhpabjBmabIwbImhIwCcacjCgabhlacjCpabhFwadIwbabbfImcIweImbIwbahbea"⟩,
  ⟨0x1CED, "bImgabIwdacIwHqacIwbImhIwbImcIwbJabIgbImbHuBlIwbIycIubImbIkbIwbIzbImbIwbImBBsa"⟩,
  ⟨0x20D0, "cIwcbeIwdbcIweabIwdacbbIwbImbIwcbeImbIwEOcadIwFlabjDsaBgIwViabIkbIubIybIocIqEba"⟩,
  ⟨0x3099, "ciBSQeabIweakIwBgacIwDcacIwKqabjBlabjFvabjBbasIwCfadImBlabjDrabhmabjJfabIwbacIw"⟩,
  ⟨0xAAB4, "bImcacIwfacIwbabIwCaabjJmabjBDZsabBaBDpahIwhImcIwBLlabImIsabImFtafIwCMsabImbabIw"⟩,
  ⟨0x10A10, "BoabIwbbbImeabjGjabIwbImWbaeIwCnafIwMfacIwCzacImbadImCsacImdIwbImbIweImBxabIwbIm"⟩,
  ⟨0x10F84, "bIwbImHkabjBpabjoabjCfabjbhCradIwBwacjCkabhCyabjjabhEcabjbhGwabhbjDcachqabjyahIw"⟩,
  ⟨0x1136D, "dafIwDladjEjabjdabhxabIwDvabjbhJrabjbhEwabjEoabjbhElabjKjabjbhJyacjeabhGaabjDfa"⟩,
  ⟨0x11A34, "bjsabjDdabjQfabjJyabhbacjDdabjQjacjYZcabjDSaafbChahIwBUnacgBDAyabbHWoacIidbdabIs"⟩,
  ⟨0x1D16E, "fIiiaiImcafIwcImBeaeIwFsadIwFFfahIwbarIwcahIwbacIwbafIwDwabIwGeahIwOlabIwCjaeIw"⟩,
  ⟨0x1E2F0, "ToacIybImbIwJuabIwbImJjabIwcabIwhacIwfabIwSgahImEfagIwbh"⟩]

/-- The full canonical decomposition of each character that has one. -/
def decompositionRows : List Row := [
  ⟨0x00C0, "acCnBDoacCnBDpacCnBDqacCnBDracCnBDwacCnBDybcCpBFbacCrBDoacCrBDpacCrBDqacCrBDw"⟩,
  ⟨0x00CC, "acCvBDoacCvBDpacCvBDqacCvBDwbcDaBDracDbBDoacDbBDpacDbBDqacDbBDracDbBDwccDhBDo"⟩,
  ⟨0x00DA, "acDhBDpacDhBDqacDhBDwacDlBDpccDtBDoacDtBDpacDtBDqacDtBDracDtBDwacDtBDybcDvBFb"⟩,
  ⟨0x00E8, "acDxBDoacDxBDpacDxBDqacDxBDwacEbBDoacEbBDpacEbBDqacEbBDwbcEgBDracEhBDoacEhBDp"⟩,
  ⟨0x00F4, "acEhBDqacEhBDracEhBDwccEnBDoacEnBDpacEnBDqacEnBDwacErBDpbcErBDwacCnBDsacDtBDs"⟩,
  ⟨0x0102, "acCnBDuacDtBDuacCnBFcacDtBFcacCpBDpacDvBDpacCpBDqacDvBDqacCpBDvacDvBDvacCpBEa"⟩,
  ⟨0x010D, "acDvBEaacCqBEaacDwBEaccCrBDsacDxBDsacCrBDuacDxBDuacCrBDvacDxBDvacCrBFcacDxBFc"⟩,
  ⟨0x011A, "acCrBEaacDxBEaacCtBDqacDzBDqacCtBDuacDzBDuacCtBDvacDzBDvacCtBFbacDzBFbacCuBDq"⟩,
  ⟨0x0125, "acEaBDqccCvBDracEbBDracCvBDsacEbBDsacCvBDuacEbBDuacCvBFcacEbBFcacCvBDvdcCwBDq"⟩,
  ⟨0x0135, "acEcBDqacCxBFbacEdBFbbcCyBDpacEeBDpacCyBFbacEeBFbacCyBEaacEeBEaecDaBDpacEgBDp"⟩,
  ⟨0x0145, "acDaBFbacEgBFbacDaBEaacEgBEadcDbBDsacEhBDsacDbBDuacEhBDuacDbBDzacEhBDzccDeBDp"⟩,
  ⟨0x0155, "acEkBDpacDeBFbacEkBFbacDeBEaacEkBEaacDfBDpacElBDpacDfBDqacElBDqacDfBFbacElBFb"⟩,
  ⟨0x0160, "acDfBEaacElBEaacDgBFbacEmBFbacDgBEaacEmBEaccDhBDracEnBDracDhBDsacEnBDsacDhBDu"⟩,
  ⟨0x016D, "acEnBDuacDhBDyacEnBDyacDhBDzacEnBDzacDhBFcacEnBFcacDjBDqacEpBDqacDlBDqacErBDq"⟩,
  ⟨0x0178, "acDlBDwacDmBDpacEsBDpacDmBDvacEsBDvacDmBEaacEsBEaBhcDbBEpacEhBEpncDhBEpacEnBEp"⟩,
  ⟨0x01CD, "acCnBEaacDtBEaacCvBEaacEbBEaacDbBEaacEhBEaacDhBEaacEnBEaadDhBDwBDsadEnBDwBDs"⟩,
  ⟨0x01D7, "adDhBDwBDpadEnBDwBDpadDhBDwBEaadEnBDwBEaadDhBDwBDoadEnBDwBDobdCnBDwBDsadDtBDwBDs"⟩,
  ⟨0x01E0, "adCnBDvBDsadDtBDvBDsacHqBDsacIwBDsccCtBEaacDzBEaacCxBEaacEdBEaacDbBFcacEhBFc"⟩,
  ⟨0x01EC, "adDbBFcBDsadEhBFcBDsacQxBEaacZiBEaacEcBEadcCtBDpacDzBDpccDaBDoacEgBDoadCnBDyBDp"⟩,
  ⟨0x01FB, "adDtBDyBDpacHqBDpacIwBDpacIiBDpacJoBDpacCnBEdacDtBEdacCnBEfacDtBEfacCrBEdacDxBEd"⟩,
  ⟨0x0206, "acCrBEfacDxBEfacCvBEdacEbBEdacCvBEfacEbBEfacDbBEdacEhBEdacDbBEfacEhBEfacDeBEd"⟩,
  ⟨0x0211, "acEkBEdacDeBEfacEkBEfacDhBEdacEnBEdacDhBEfacEnBEfacDfBFaacElBFaacDgBFaacEmBFa"⟩,
  ⟨0x021E, "acCuBEaacEaBEagcCnBDvacDtBDvacCrBFbacDxBFbadDbBDwBDsadEhBDwBDsadDbBDrBDs"⟩,
  ⟨0x022D, "adEhBDrBDsacDbBDvacEhBDvadDbBDvBDsadEhBDvBDsacDlBDsacErBDsKibBDoabBDpbbBEh"⟩,
  ⟨0x0344, "acBDwBDpBvbBAvjbChgcGmBDpacBJdBDpabHbacBJhBDpacBJjBDpacBJlBDpbcBJrBDpbcBJxBDp"⟩,
  ⟨0x038F, "acBKbBDpadBKrBDwBDpzcBJlBDwacBJxBDwacBKjBDpacBKnBDpacBKpBDpacBKrBDpadBLdBDwBDp"⟩,
  ⟨0x03CA, "acBKrBDwacBLdBDwacBKxBDpacBLdBDpacBLhBDpecBLqBDpacBLqBDwBrcBOfBDoacBOfBDw"⟩,
  ⟨0x0403, "acBOdBDpdcBNqBDwecBOkBDpacBOiBDoacBOtBDukcBOiBDuBfcBPoBDuwcBPlBDoacBPlBDw"⟩,
  ⟨0x0453, "acBPjBDpdcBQsBDwecBPqBDpacBPoBDoacBPzBDuxcBRwBEdacBRxBEdCvcBOgBDuacBPmBDu"⟩,
  ⟨0x04D0, "acBOaBDuacBPgBDuacBOaBDwacBPgBDwccBOfBDuacBPlBDuccBVsBDwacBVtBDwacBOgBDwacBPmBDw"⟩,
  ⟨0x04DE, "acBOhBDwacBPnBDwccBOiBDsacBPoBDsacBOiBDwacBPoBDwacBOoBDwacBPuBDwccBWiBDwacBWjBDw"⟩,
  ⟨0x04EC, "acBPdBDwacBQjBDwacBOtBDsacBPzBDsacBOtBDwacBPzBDwacBOtBDzacBPzBDzacBOxBDwacBQdBDw"⟩,
  ⟨0x04F8, "acBPbBDwacBQhBDwLkcCIpCKhacCIpCKiacCJwCKiacCIpCKjacCJyCKiFxcCPhCKibcCOnCKi"⟩,
  ⟨0x06D3, "acCPeCKiWzcDMeDMyhcDMmDMyccDMpDMyBjcDLlDMyacDLmDMyacDLnDMyacDLsDMyacDLxDMy"⟩,
  ⟨0x095D, "acDLyDMyacDMhDMyacDMlDMyEdcDShDRyacDShDSxpcDQvDRwacDQwDRwbcDRjDRwDfcDWkDWu"⟩,
  ⟨0x0A36, "acDWqDWuBicDViDWuacDVjDWuacDVoDWuccDWdDWuIzcEHbEHqccEHbEGsacEHbEHrpcEFpEGq"⟩,
  ⟨0x0B5D, "acEFqEGqCccEJyEMpCbcELyELqacELzELqacELyEMpEtcEQwERmEpcEVnEWjgcEVuEWjacEVuEWk"⟩,
  ⟨0x0CCA, "acEVuEVqadEVuEVqEWjEwcFAsFAkacFAtFAkacFAsFBjFlcFGjFFubcFGjFFzadFGjFFzFFuacFGjFGp"⟩,
  ⟨0x0F43, "acFUgFYtjcFUqFYtecFUvFYtecFVaFYtecFVfFYtmcFUeFYrjcFWbFWcbcFWbFWeacFYoFWqbcFYpFWq"⟩,
  ⟨0x0F81, "acFWbFWqrcFXiFYtjcFXsFYtecFXxFYtecFYcFYtecFYhFYtmcFXgFYrEecGCzGDiEDbcKGbKHx"⟩,
  ⟨0x1B08, "acKGdKHxbcKGfKHxbcKGhKHxbcKGjKHxdcKGnKHxBocKIcKHxbcKIeKHxccKIgKHxacKIhKHx"⟩,
  ⟨0x1B43, "acKIkKHxBAycCnBEzacDtBEzacCoBDvacDuBDvacCoBExacDuBExacCoBFlacDuBFladCpBFbBDp"⟩,
  ⟨0x1E09, "adDvBFbBDpacCqBDvacDwBDvacCqBExacDwBExacCqBFlacDwBFlacCqBFbacDwBFbacCqBFhacDwBFh"⟩,
  ⟨0x1E14, "adCrBDsBDoadDxBDsBDoadCrBDsBDpadDxBDsBDpacCrBFhacDxBFhacCrBFkacDxBFkadCrBFbBDu"⟩,
  ⟨0x1E1D, "adDxBFbBDuacCsBDvacDyBDvacCtBDsacDzBDsacCuBDvacEaBDvacCuBExacEaBExacCuBDwacEaBDw"⟩,
  ⟨0x1E28, "acCuBFbacEaBFbacCuBFiacEaBFiacCvBFkacEbBFkadCvBDwBDpadEbBDwBDpacCxBDpacEdBDp"⟩,
  ⟨0x1E32, "acCxBExacEdBExacCxBFlacEdBFlacCyBExacEeBExadCyBExBDsadEeBExBDsacCyBFlacEeBFl"⟩,
  ⟨0x1E3C, "acCyBFhacEeBFhacCzBDpacEfBDpacCzBDvacEfBDvacCzBExacEfBExacDaBDvacEgBDvacDaBEx"⟩,
  ⟨0x1E47, "acEgBExacDaBFlacEgBFlacDaBFhacEgBFhadDbBDrBDpadEhBDrBDpadDbBDrBDwadEhBDrBDw"⟩,
  ⟨0x1E50, "adDbBDsBDoadEhBDsBDoadDbBDsBDpadEhBDsBDpacDcBDpacEiBDpacDcBDvacEiBDvacDeBDv"⟩,
  ⟨0x1E59, "acEkBDvacDeBExacEkBExadDeBExBDsadEkBExBDsacDeBFlacEkBFlacDfBDvacElBDvacDfBEx"⟩,
  ⟨0x1E63, "acElBExadDfBDpBDvadElBDpBDvadDfBEaBDvadElBEaBDvadDfBExBDvadElBExBDvacDgBDv"⟩,
  ⟨0x1E6B, "acEmBDvacDgBExacEmBExacDgBFlacEmBFlacDgBFhacEmBFhacDhBEyacEnBEyacDhBFkacEnBFk"⟩,
  ⟨0x1E76, "acDhBFhacEnBFhadDhBDrBDpadEnBDrBDpadDhBDsBDwadEnBDsBDwacDiBDracEoBDracDiBEx"⟩,
  ⟨0x1E7F, "acEoBExacDjBDoacEpBDoacDjBDpacEpBDpacDjBDwacEpBDwacDjBDvacEpBDvacDjBExacEpBEx"⟩,
  ⟨0x1E8A, "acDkBDvacEqBDvacDkBDwacEqBDwacDlBDvacErBDvacDmBDqacEsBDqacDmBExacEsBExacDmBFl"⟩,
  ⟨0x1E95, "acEsBFlacEaBFlacEmBDwacEpBDyacErBDybcOtBDvecCnBExacDtBExacCnBDxacDtBDxadCnBDqBDp"⟩,
  ⟨0x1EA5, "adDtBDqBDpadCnBDqBDoadDtBDqBDoadCnBDqBDxadDtBDqBDxadCnBDqBDradDtBDqBDradCnBExBDq"⟩,
  ⟨0x1EAD, "adDtBExBDqadCnBDuBDpadDtBDuBDpadCnBDuBDoadDtBDuBDoadCnBDuBDxadDtBDuBDxadCnBDuBDr"⟩,
  ⟨0x1EB5, "adDtBDuBDradCnBExBDuadDtBExBDuacCrBExacDxBExacCrBDxacDxBDxacCrBDracDxBDr"⟩,
  ⟨0x1EBE, "adCrBDqBDpadDxBDqBDpadCrBDqBDoadDxBDqBDoadCrBDqBDxadDxBDqBDxadCrBDqBDradDxBDqBDr"⟩,
  ⟨0x1EC6, "adCrBExBDqadDxBExBDqacCvBDxacEbBDxacCvBExacEbBExacDbBExacEhBExacDbBDxacEhBDx"⟩,
  ⟨0x1ED0, "adDbBDqBDpadEhBDqBDpadDbBDqBDoadEhBDqBDoadDbBDqBDxadEhBDqBDxadDbBDqBDradEhBDqBDr"⟩,
  ⟨0x1ED8, "adDbBExBDqadEhBExBDqadDbBEpBDpadEhBEpBDpadDbBEpBDoadEhBEpBDoadDbBEpBDxadEhBEpBDx"⟩,
  ⟨0x1EE0, "adDbBEpBDradEhBEpBDradDbBEpBExadEhBEpBExacDhBExacEnBExacDhBDxacEnBDxadDhBEpBDp"⟩,
  ⟨0x1EE9, "adEnBEpBDpadDhBEpBDoadEnBEpBDoadDhBEpBDxadEnBEpBDxadDhBEpBDradEnBEpBDradDhBEpBEx"⟩,
  ⟨0x1EF1, "adEnBEpBExacDlBDoacErBDoacDlBExacErBExacDlBDxacErBDxacDlBDracErBDrgcBKjBEh"⟩,
  ⟨0x1F01, "acBKjBEiadBKjBEhBDoadBKjBEiBDoadBKjBEhBDpadBKjBEiBDpadBKjBEhBGcadBKjBEiBGc"⟩,
  ⟨0x1F08, "acBJdBEhacBJdBEiadBJdBEhBDoadBJdBEiBDoadBJdBEhBDpadBJdBEiBDpadBJdBEhBGc"⟩,
  ⟨0x1F0F, "adBJdBEiBGcacBKnBEhacBKnBEiadBKnBEhBDoadBKnBEiBDoadBKnBEhBDpadBKnBEiBDpccBJhBEh"⟩,
  ⟨0x1F19, "acBJhBEiadBJhBEhBDoadBJhBEiBDoadBJhBEhBDpadBJhBEiBDpccBKpBEhacBKpBEiadBKpBEhBDo"⟩,
  ⟨0x1F23, "adBKpBEiBDoadBKpBEhBDpadBKpBEiBDpadBKpBEhBGcadBKpBEiBGcacBJjBEhacBJjBEi"⟩,
  ⟨0x1F2A, "adBJjBEhBDoadBJjBEiBDoadBJjBEhBDpadBJjBEiBDpadBJjBEhBGcadBJjBEiBGcacBKrBEh"⟩,
  ⟨0x1F31, "acBKrBEiadBKrBEhBDoadBKrBEiBDoadBKrBEhBDpadBKrBEiBDpadBKrBEhBGcadBKrBEiBGc"⟩,
  ⟨0x1F38, "acBJlBEhacBJlBEiadBJlBEhBDoadBJlBEiBDoadBJlBEhBDpadBJlBEiBDpadBJlBEhBGc"⟩,
  ⟨0x1F3F, "adBJlBEiBGcacBKxBEhacBKxBEiadBKxBEhBDoadBKxBEiBDoadBKxBEhBDpadBKxBEiBDpccBJrBEh"⟩,
  ⟨0x1F49, "acBJrBEiadBJrBEhBDoadBJrBEiBDoadBJrBEhBDpadBJrBEiBDpccBLdBEhacBLdBEiadBLdBEhBDo"⟩,
  ⟨0x1F53, "adBLdBEiBDoadBLdBEhBDpadBLdBEiBDpadBLdBEhBGcadBLdBEiBGcbcBJxBEibdBJxBEiBDo"⟩,
  ⟨0x1F5D, "adBJxBEiBDpbdBJxBEiBGcacBLhBEhacBLhBEiadBLhBEhBDoadBLhBEiBDoadBLhBEhBDp"⟩,
  ⟨0x1F65, "adBLhBEiBDpadBLhBEhBGcadBLhBEiBGcacBKbBEhacBKbBEiadBKbBEhBDoadBKbBEiBDo"⟩,
  ⟨0x1F6C, "adBKbBEhBDpadBKbBEiBDpadBKbBEhBGcadBKbBEiBGcacBKjBDoacBKjBDpacBKnBDoacBKnBDp"⟩,
  ⟨0x1F74, "acBKpBDoacBKpBDpacBKrBDoacBKrBDpacBKxBDoacBKxBDpacBLdBDoacBLdBDpacBLhBDoacBLhBDp"⟩,
  ⟨0x1F80, "adBKjBEhBGfadBKjBEiBGfaeBKjBEhBDoBGfaeBKjBEiBDoBGfaeBKjBEhBDpBGfaeBKjBEiBDpBGf"⟩,
  ⟨0x1F86, "aeBKjBEhBGcBGfaeBKjBEiBGcBGfadBJdBEhBGfadBJdBEiBGfaeBJdBEhBDoBGfaeBJdBEiBDoBGf"⟩,
  ⟨0x1F8C, "aeBJdBEhBDpBGfaeBJdBEiBDpBGfaeBJdBEhBGcBGfaeBJdBEiBGcBGfadBKpBEhBGfadBKpBEiBGf"⟩,
  ⟨0x1F92, "aeBKpBEhBDoBGfaeBKpBEiBDoBGfaeBKpBEhBDpBGfaeBKpBEiBDpBGfaeBKpBEhBGcBGf"⟩,
  ⟨0x1F97, "aeBKpBEiBGcBGfadBJjBEhBGfadBJjBEiBGfaeBJjBEhBDoBGfaeBJjBEiBDoBGfaeBJjBEhBDpBGf"⟩,
  ⟨0x1F9D, "aeBJjBEiBDpBGfaeBJjBEhBGcBGfaeBJjBEiBGcBGfadBLhBEhBGfadBLhBEiBGfaeBLhBEhBDoBGf"⟩,
  ⟨0x1FA3, "aeBLhBEiBDoBGfaeBLhBEhBDpBGfaeBLhBEiBDpBGfaeBLhBEhBGcBGfaeBLhBEiBGcBGf"⟩,
  ⟨0x1FA8, "adBKbBEhBGfadBKbBEiBGfaeBKbBEhBDoBGfaeBKbBEiBDoBGfaeBKbBEhBDpBGfaeBKbBEiBDpBGf"⟩,
  ⟨0x1FAE, "aeBKbBEhBGcBGfaeBKbBEiBGcBGfacBKjBDuacBKjBDsadBKjBDoBGfacBKjBGfadBKjBDpBGf"⟩,
  ⟨0x1FB6, "acBKjBGcadBKjBGcBGfacBJdBDuacBJdBDsacBJdBDoacBJdBDpacBJdBGfbbBKrccGmBGc"⟩,
  ⟨0x1FC2, "adBKpBDoBGfacBKpBGfadBKpBDpBGfbcBKpBGcadBKpBGcBGfacBJhBDoacBJhBDpacBJjBDo"⟩,
  ⟨0x1FCB, "acBJjBDpacBJjBGfacMApBDoacMApBDpacMApBGcacBKrBDuacBKrBDsadBKrBDwBDoadBKrBDwBDp"⟩,
  ⟨0x1FD6, "acBKrBGcadBKrBDwBGcacBJlBDuacBJlBDsacBJlBDoacBJlBDpbcMDaBDoacMDaBDpacMDaBGc"⟩,
  ⟨0x1FE0, "acBLdBDuacBLdBDsadBLdBDwBDoadBLdBDwBDpacBKzBEhacBKzBEiacBLdBGcadBLdBDwBGc"⟩,
  ⟨0x1FE8, "acBJxBDuacBJxBDsacBJxBDoacBJxBDpacBJtBEiacGmBDoacGmBDpabDscdBLhBDoBGfacBLhBGf"⟩,
  ⟨0x1FF4, "adBLhBDpBGfbcBLhBGcadBLhBGcBGfacBJrBDoacBJrBDpacBKbBDoacBKbBDpacBKbBGfabGycbMDe"⟩,
  ⟨0x2001, "abMDfLgbBKbdbCxacCnBDyEgcMSmBFsacMSoBFsscMSqBFsBecMUyBFsacMVcBFsacMVaBFs"⟩,
  ⟨0x2204, "acMWxBFsecMXcBFsccMXfBFsxcMYdBFsbcMYfBFsBacMZcBFsccMZjBFsccMZlBFsbcMZoBFswcCjBFs"⟩,
  ⟨0x2262, "acNAnBFskcMZtBFsacCiBFsacCkBFsacNAqBFsacNArBFsccNBeBFsacNBfBFsccNBiBFsacNBjBFs"⟩,
  ⟨0x2280, "acNBmBFsacNBnBFsccNBuBFsacNBvBFsccNByBFsacNBzBFsBicNDaBFsacNDgBFsacNDhBFs"⟩,
  ⟨0x22AF, "acNDjBFsBwcNBoBFsacNBpBFsacNCjBFsacNCkBFsgcNDqBFsacNDrBFsacNDsBFsacNDtBFsChbSEy"⟩,
  ⟨0x232A, "abSEzCXtcQGbBFsCBncSHnSKnbcSHpSKnbcSHrSKnbcSHtSKnbcSHvSKnbcSHxSKnbcSHzSKn"⟩,
  ⟨0x305A, "acSIbSKnbcSIdSKnbcSIfSKnbcSIhSKnbcSIjSKnccSImSKnbcSIoSKnbcSIqSKngcSIxSKnacSIxSKo"⟩,
  ⟨0x3073, "acSJaSKnacSJaSKobcSJdSKnacSJdSKobcSJgSKnacSJgSKobcSJjSKnacSJjSKowcSHiSKnjcSKrSKn"⟩,
  ⟨0x30AC, "acSLfSKnbcSLhSKnbcSLjSKnbcSLlSKnbcSLnSKnbcSLpSKnbcSLrSKnbcSLtSKnbcSLvSKnbcSLxSKn"⟩,
  ⟨0x30C0, "acSLzSKnbcSMbSKnccSMeSKnbcSMgSKnbcSMiSKngcSMpSKnacSMpSKobcSMsSKnacSMsSKobcSMvSKn"⟩,
  ⟨0x30D7, "acSMvSKobcSMySKnacSMySKobcSNbSKnacSNbSKowcSLaSKnccSNvSKnacSNwSKnacSNxSKnacSNySKn"⟩,
  ⟨0x30FE, "acSOjSKnCXThbCBDgabBMZsabCCByabCBIeabBPZdabBDPyabBFUbabCILoabCILoabBHVlabCDFt"⟩,
  ⟨0xF90B, "abBGKdabBHVcabBLCoabBSVxabBWHpabBYVvabBZKkabBZWqabCCTjabBODuabBPIhabBQTdabBRWw"⟩,
  ⟨0xF918, "abBYCbabCDBuabCGHtabBDTaabBFPtabBONsabBRFnabBYVdabCHWwabBJIuabBQJzabBYRlabCAAu"⟩,
  ⟨0xF925, "abBLKrabBXEmabBZOhabBJXiabBNBbabBPLiabBROeabCCVuabBEDaabBEYpabBFJyabBMEeabBOLv"⟩,
  ⟨0xF932, "abBRFcabBTAtabBWMjabBYTqabBYWyabCBTnabCFGsabCGWlabCHVmabBTQyabBUAhabBVOyabBXXp"⟩,
  ⟨0xF93F, "abCDRoabCIApabCAPaabBHRbabBJZoabBVCqabBWReabBRIgabBTTiabCBHyabCFElabBHQuabBIZq"⟩,
  ⟨0xF94C, "abBOElabBPPqabBQBnabBVKpabBVUtabCEXvabBFJmabBWRrabBFAaabBEZkabBUGiabBVQcabBXZd"⟩,
  ⟨0xF959, "abCEZlabCAVoabBLKxabBODuabCAQoabBDQfabBIUxabBKJyabBRTnabBSMiabBFMdabBTVfabBEFf"⟩,
  ⟨0xF966, "abBKFxabBDOnabBPFgabBMLcabBVKcabBFStabBHMcabBTBtabBYCnabCANiabBOUsabCCKuabBPCq"⟩,
  ⟨0xF973, "abBLMsabBXOvabBLSyabBSLxabBDUsabBEVpabBEZhabBNOzabBVHvabBXKhabCAOwabCDFrabBFKv"⟩,
  ⟨0xF980, "abBFXqabBHWtabBJYqabBMObabBQKsabBTXaabCERtabCGMkabCIBnabCIDqabBFHjabBMXyabBOSd"⟩,
  ⟨0xF98D, "abCCHuabBJUaabBKYqabBLCyabBMCoabBQChabBQXlabBSDlabBUDeabBVSeabBWQpabCCFmabBYIw"⟩,
  ⟨0xF99A, "abCCPfabCDUgabBFChabBFHrabBGCjabBQSmabBZUoabCANiabBJXhabBKIvabBLRnabBOUgabBVBi"⟩,
  ⟨0xF9A7, "abBRSvabBDWuabBGYjabBIUxabBJMwabBKKiabBRVeabBSCfabBWIkabBWPaabCDJoabCFEkabCFHo"⟩,
  ⟨0xF9B4, "abCFPoabBEDfabBUCcabCDEqabCFCaabBKRxabBDTeabBEQcabBIVeabBIYhabBMMjabBODuabBRCo"⟩,
  ⟨0xF9C1, "abBSUkabBYJkabCCSqabCIKzabBMVoabCEWsabBFGrabBNExabBNJnabBPJtabBPXcabBRYnabBSLl"⟩,
  ⟨0xF9CE, "abBTPrabBVJkabCFSgabBEVtabBLEsabCEZoabBEJjabBJGrabBPQgabCCFqabBKEtabBKVsabBNKx"⟩,
  ⟨0xF9DB, "abBRTnabCFAcabBFCzabBFVrabBIZtabBMRbabBNDeabBNQmabBPGfabBRYkabBSQsabBWHdabBZVb"⟩,
  ⟨0xF9E8, "abBZVtabCDFoabCFDqabBFNrabBPYgabBFWfabBRCqabBSEaabBYTeabCFBfabCHFjabCIBvabBNFz"⟩,
  ⟨0xF9F5, "abBPPbabBXFcabBUNbabBUQiabBVEoabBRLwabBQQrabCAUaabBDVkabBXRyabBFDqabBFBrabBJVy"⟩,
  ⟨0xFA02, "abBLLbabBVHeabBIRdabBPIkabBMXgabCCGhabBZQaabCEXxabCAChabBJXrabBEUaabBGMicbBHLy"⟩,
  ⟨0xFA12, "abBMUucbBFAcabBRPyabBSZqabBTXsabBTZaabBTZhabBUAxabCFIcabBVGgabBWJtbbBYUcbbCAQi"⟩,
  ⟨0xFA25, "abCCQaabCCXpdbCFXvabCFYiabCGAaabCHSuabCCWkabCFBzabBEEoabBEQpabBEUnabBFJdabBFKe"⟩,
  ⟨0xFA35, "abBFOjabBGKzabBGPaabBGSuabBHKyabBHOyabBIZsabBJAcabBKOyabBKXcabBKYoabBLCkabBMJn"⟩,
  ⟨0xFA42, "abBMPeabBMVxabBNPdabBPLvabBPScabBQCgabBQYwabBRGdabBRZmabBTRdabBTXuabBTYfabBTYe"⟩,
  ⟨0xFA4F, "abBTYmabBTYsabBTYzabBUAvabBUAwabBUHsabBUKfabBUWmabBVSeabBVSzabBVVdabBWGwabBWMn"⟩,
  ⟨0xFA5C, "abBXFhabBXKrabBXKrabBYDbabBZXoabCACsabCAQrabCASvabCBIpabCBKqabCCLaabCCQaabCFDr"⟩,
  ⟨0xFA69, "abCFOpabCFQxabBKNtabILGgabBXGycbBDPmabBEYnabBEVoabBECuabBEUfabBEWmabBFJbabBFLa"⟩,
  ⟨0xFA78, "abBGKzabBGIfabBGKvabBGNqabBHLyabBHPjabBHUyabBHVoabBIFyabBINoabBJXqabBJXxabBKDl"⟩,
  ⟨0xFA85, "abBKGbabBKRoabBKWcabBKTkabBKYoabBKWuabBLCkabBLEyabBLUiabBLXsabBLZuabBMJuabBMUu"⟩,
  ⟨0xFA92, "abBNBbabBNBfabBNDmabBOSfabBOUsabBPJtabBPZnabBPYxabBQCgabBQLyabBQYwabBTIdabBRGn"⟩,
  ⟨0xFA9F, "abBRLfabBRPyabBSCnabBSIgabBSKhabBSSzabBSTbabBSZqabBTAhabBTBgabBTEoabBTEeabBTTk"⟩,
  ⟨0xFAAC, "abBUMbabBUWmabBVDrabBVMhabBVSeabBWEwabBWMnabBXTaabBXZbabBZHxabBZZlabCACcabCACs"⟩,
  ⟨0xFAB9, "abCAOdabCAQiabCAOpabCAQrabCAQoabCAPxabCASvabCAVyabCBKqabCCGeabCCSgabCDDpabCDMc"⟩,
  ⟨0xFAC6, "abCEZsabCFDrabCFIcabCFNfabCFOpabCFPbabCFQxabCGSwabCILoabIBDyabIBDsabIFNpabWOz"⟩,
  ⟨0xFAD3, "abYHcabYIjabIRBlabIVBcabJHXzabCIIdabCILaCpcCFpCEebcCGoCEhkcCGfCEracCGfCEs"⟩,
  ⟨0xFB2C, "adCGfCEmCEradCGfCEmCEsacCFgCEhacCFgCEiacCFgCEmacCFhCEmacCFiCEmacCFjCEmacCFkCEm"⟩,
  ⟨0xFB35, "acCFlCEmacCFmCEmbcCFoCEmacCFpCEmacCFqCEmacCFrCEmacCFsCEmbcCFuCEmbcCFwCEmacCFxCEm"⟩,
  ⟨0xFB43, "acCFzCEmacCGaCEmbcCGcCEmacCGdCEmacCGeCEmacCGfCEmacCGgCEmacCFlCEjacCFhCEpacCFrCEp"⟩,
  ⟨0xFB4E, "acCGaCEpDZecDVDyBDvBacDVEgBDvEBlcDZGbDZHibcDZGdDZHiocDZGnDZHiFacDZLxDZLn"⟩,
  ⟨0x1112F, "acDZLyDZLnUtcEAGlEAGcacEAGlEAHbCccEAIsEALlbcEAIuEAKxicEAJbEALeccEAJgEALl"⟩,
  ⟨0x113C5, "acEALeEALebcEALeEAKuacEALeEALlJicEAUrEAUsacEAUrEAUibcEAUrEAUvJrcEBEmEBEd"⟩,
  ⟨0x115BB, "acEBEnEBEdBIicECMvECMqBBGacFDSwFDSwacFDSwFDThacFDSwFDSxacFDThFDSxacFDSwFDSy"⟩,
  ⟨0x16126, "adFDSwFDSwFDSxadFDSwFDThFDSxadFDSwFDSwFDSyEQpcFIJvFIJvacFIJrFIJvadFIJrFIJvFIJv"⟩,
  ⟨0x1D15E, "acGUFvGUGjacGUFwGUGjadGUFwGUGjGUGsadGUFwGUGjGUGtadGUFwGUGjGUGuadGUFwGUGjGUGv"⟩,
  ⟨0x1D164, "adGUFwGUGjGUGwDicGUJpGUGjacGUJqGUGjadGUJpGUGjGUGsadGUJqGUGjGUGsadGUJpGUGjGUGt"⟩,
  ⟨0x1D1C0, "adGUJqGUGjGUGtEHLfbBDQjabBDQeabBDQnabHMIkabBEBoabBEEoabBEFbabBEHuabBEMkabBENp"⟩,
  ⟨0x2F80A, "abBEQpabBEPrabTYcabHOGoabBEUnabBEUuabBEVkabBEWdabHNVoabTZdabBEVnabBEWzabHNXj"⟩,
  ⟨0x2F817, "abBEXjabBEXwabBDVwabBEYeabBEYnabJPDnabBFAzabBFBnabUApabBFDrabBFEcabBFFuabBFFz"⟩,
  ⟨0x2F824, "abUCrabBFJbabBFJdabBFKeabBFLaabBFLlabBFLmabBFMdabBFObabBFOjabBFOsabBFPrabBFQb"⟩,
  ⟨0x2F831, "abBFQdabBFQdabBFQdabHPTkabBQPcabBFTaabBFTvabHQFjabBFUhabBFUnabBFViabBGBeabBFXg"⟩,
  ⟨0x2F83E, "abBFXwabBFZcabBGBiabBGEoabBGFoabBGIdabBGItabBGKaabBGKaabBGKvabBGLnabBGLvabBGMk"⟩,
  ⟨0x2F84B, "abBGZmabBGPaabBGZnabBGRxabBGTgabBFBrabBHRqabBHGoabBHIaabBHIzabBHDzabBHKkabBHKj"⟩,
  ⟨0x2F858, "abBHPcabHTUyabBHRuabBHRzabBHSoabBHTiabBHTqabBHWcabHUMiabHUOwabBIBkabBIDfabBIDr"⟩,
  ⟨0x2F865, "abBIAqabBIGcabUUwabUVkabBIMiabBIOkabBIOkabHVRcabBITnabBIUiabBIUxabBIVjabHWEa"⟩,
  ⟨0x2F872, "abBIVvabBIWcabBKCpabBIXeabVAnabBIZoabBJAcabBJDgabBJBhabHXFoabBJIhabHXFqabBJJy"⟩,
  ⟨0x2F87F, "abBJJvabBJKmabBJOjabBJOkabVHfabBJPlabBJRcabBJRxabBJTpabVJeabHYPfabVKeabBJWi"⟩,
  ⟨0x2F88C, "abBJWlabBJWoabBJXiabJVVuabBJZiabHZFtabHZFtabBXGbabBKAsabBKAsabVNbabIFCqabIWYs"⟩,
  ⟨0x2F899, "abBKDeabBKDnabVOdabBKFiabBKHhabBKHrabBKIzabBKOfabVRmabVQiabBKOyabIAPoabBKQx"⟩,
  ⟨0x2F8A6, "abBKVwabBKWaabBKWcabBKWaabBKXuabBKYoabBKZyabBKZkabBKZvabBLBqabBLCkabBLCoabBLDo"⟩,
  ⟨0x2F8B3, "abBLDzabBLGnabBLJtabBLLcabBLPwabICFcabBLPdabBLMqabBLQuabBLRvabBLVoabICNxabBLXy"⟩,
  ⟨0x2F8C0, "abBLUjabBLThabWAwabBMArabBMBmabBMCrabBMBfabWDgabBMJnabBMKqabIECgabBMPfabBMZw"⟩,
  ⟨0x2F8CD, "abBMTdabWJxabBMVxabWJgabWHwabBEXeabBEXhabBNAeabBMWiabBWSzabZSbabBNBbabBNBfabBNBl"⟩,
  ⟨0x2F8DB, "abBNDuabBNDjabIFMxabWLtabBNJuabBNFhabBNNeabBNPdabIFTlabBNPmabBNLfabBNUqabWOz"⟩,
  ⟨0x2F8E8, "abBNWkabBOAdabBOCwabBOKeabIGPfabBOMdabWTsabBOOvabIHJbabBOQuabWVuabBORyabBOTr"⟩,
  ⟨0x2F8F5, "abBOUsabBOUtabIIBtabHWXfabIIFyabBPAkabIIXgabBPEtabBPFhabBPBjabBPIcabBPJqabBPLv"⟩,
  ⟨0x2F902, "abBPJtabBPLhabBPLwabBPMjabIJBaabBPJgabBPSxabBPViabXEpabBPYxabBPYtabIJRtabBPQv"⟩,
  ⟨0x2F90F, "abBQFeabIJXeabIJZaabBQIoabBQMzabBQLyabBQLvabXIkabBQNqabBQPpabBQPjabBQRlabHNVx"⟩,
  ⟨0x2F91C, "abBQXhabILAxabBRAqabILNnabBRGaabBRGnabBRHoabIMKuabBRJkabBRKfabIMWjabINEyabBRTa"⟩,
  ⟨0x2F929, "abBRTrabXTcabBRUrabXToabXToabBSAxabBSBsabBSCnabBSDhabBSFyabXXjabBSJkabIOTqabBSKk"⟩,
  ⟨0x2F937, "abIOXeabBSMiabHYQhabBSSmabIQBhabIQCeabIQHoabYGaabYGmabBTBgabIQOhabIQOgabIQPt"⟩,
  ⟨0x2F944, "abIQQtabBTCwabBTCxabBTCxabBTEoabYIjabBTHbabYIwabYLyabIRTlabBTOoabBTQyabBTTkabYOx"⟩,
  ⟨0x2F952, "abISNmabBTYsabISRyabISTpabBUAxabBUElabYRvabBUHsabBUIcabBUIhabITUiabIUFvabIUFv"⟩,
  ⟨0x2F95F, "abBUOkabYZyabIUPvabBUWsabBUWvabZBjabIUYaabBVHaabZGaabBVHwabBVHrabBVIuabIWBu"⟩,
  ⟨0x2F96C, "abBVMpabZJtabBVQlabBVSsabBVVhabZLsabIXBsabIXCxabZNdabIXInabBWHeabIXMkabBWIf"⟩,
  ⟨0x2F979, "abBWMcabBWMnabIYCgabIYFbabBWQaabIYKeabBWQqabIFJbabZRxabBWTeabBWWhabZTzabBWYo"⟩,
  ⟨0x2F986, "abBIJdabIZDvabIZEjabIFLbabIFLkabBXGbabBXGeabCCKcabZXrabBXLpabBXLjabBXMbabBFIh"⟩,
  ⟨0x2F993, "abBXMvabBXMxabBXNhabBXOwabJANcabBXOvabBXQzabBXTrabBXWnabBXRfabBXXdabBXYtabBYDb"⟩,
  ⟨0x2F9A0, "abBXTbabBXXqabBXXsabBXYiabJAWsabJBIpabJBCvabBAFbabBYIzabBYJbabBYKkabJDTiabBYNk"⟩,
  ⟨0x2F9AD, "abJBZwabBAGzabBAHdabJCEzabJCQcabBAHnabBYWmabBYWyabBYXjabBYXlabBYZxabBYYqabBZDu"⟩,
  ⟨0x2F9BA, "abBZCcabBZHxabBZEuabBZHjabBZIkabBALrabBZLxabBZNdabBAMzabBZQuabBZQxabJETbabBZVj"⟩,
  ⟨0x2F9C7, "abBZVqabBAPhabBZWsabTZfabJFPmabJFWoabBAUoabBAUxabCAMyabCAPxabCAVyabCBDtabJHCq"⟩,
  ⟨0x2F9D4, "abCBHbabCBHxabCBLjabCBOxabJIBnabHOYeabCBSdabCBRoabCBToabHPGoabCCCiabCCGeabJKOw"⟩,
  ⟨0x2F9E1, "abJKPxabCCToabCCXdabCCYjabJLCgabCCYtabCDJsabCDPvabCDPwabCDMiabCEAzabCECbabJMXm"⟩,
  ⟨0x2F9EE, "abCEQlabBBWnabCESdabJNMdabBBZqabCFClabBJMoabCFGdabJOXpabJPFuabBCEwabBCFeabCFNk"⟩,
  ⟨0x2F9FB, "abJPYwabBCHmabJQEgabCFPbabCFPbabCFQfabJQPiabCFXiabBCMlabCGAbabCGExabCGFyabCGIg"⟩,
  ⟨0x2FA08, "abBCSkabJSRgabCGSwabCHEmabCHLtabBDCgabBDDlabCHPvabJUUoabBDDwabJUWrabJVGwabJVLx"⟩,
  ⟨0x2FA15, "abCICxabBDHmabCIFhabCIFmabCIFtabCIGdabCIGkabCIHvabJWTs"⟩]

/-- To a first character, its partners and the composites with them, in turn. -/
def compositionRows : List Row := [
  ⟨0x003C, "acBFsNBaacBFsNAmacBFsNBb"⟩,
  ⟨0x0041, "aBgBDoHkBDpHlBDqHmBDrHnBDwHoBDyHpBDsJwBDuJyBFcKaBEaRtBEdTsBEfTuBDvVeBEzLJkBExLPoBDxLPq"⟩,
  ⟨0x0042, "agBDvLJmBExLJoBFlLJqakBFbHrBDpKcBDqKeBDvKgBEaKi"⟩,
  ⟨0x0044, "amBEaKkBDvLJuBExLJwBFlLJyBFbLKaBFhLKc"⟩,
  ⟨0x0045, "aBiBDoHsBDpHtBDqHuBDwHvBDsKoBDuKqBDvKsBFcKuBEaKwBEdTwBEfTyBFbVgBFhLKiBFkLKkBExLQmBDxLQoBDrLQq"⟩,
  ⟨0x0046, "acBDvLKoaoBDqKyBDuLaBDvLcBFbLeBEaSsBDpTgBDsLKq"⟩,
  ⟨0x0048, "aoBDqLgBEaUwBDvLKsBExLKuBDwLKwBFbLKyBFiLLa"⟩,
  ⟨0x0049, "aBeBDoHwBDpHxBDqHyBDwHzBDrLkBDsLmBDuLoBFcLqBDvLsBEaRvBEdUaBEfUcBFkLLcBDxLRcBExLRe"⟩,
  ⟨0x004A, "acBDqLwakBFbLyBEaSuBDpLLgBExLLiBFlLLkamBDpMbBFbMdBEaMfBExLLmBFlLLqBFhLLs"⟩,
  ⟨0x004D, "agBDpLLuBDvLLwBExLLyasBDrIbBDpMlBFbMnBEaMpBDoTkBDvLMaBExLMcBFlLMeBFhLMg"⟩,
  ⟨0x004F, "aBgBDoIcBDpIdBDqIeBDrIfBDwIgBDsMuBDuMwBDzMyBEpQaBEaRxBFcSwBEdUeBEfUgBDvVmBExLRgBDxLRi"⟩,
  ⟨0x0050, "aeBDpLMqBDvLMsbqBDpNcBFbNeBEaNgBEdUiBEfUkBDvLMuBExLMwBFlLNa"⟩,
  ⟨0x0053, "aoBDpNiBDqNkBFbNmBEaNoBFaUqBDvLNcBExLNeaoBFbNqBEaNsBFaUsBDvLNmBExLNoBFlLNqBFhLNs"⟩,
  ⟨0x0055, "aBmBDoIjBDpIkBDqIlBDwImBDrNwBDsNyBDuOaBDyOcBDzOeBFcOgBEpQpBEaRzBEdUmBEfUoBEyLNuBFkLNwBFhLNyBExLSeBDxLSg"⟩,
  ⟨0x0056, "aeBDrLOeBExLOgamBDqOiBDoLOiBDpLOkBDwLOmBDvLOoBExLOqaeBDvLOsBDwLOu"⟩,
  ⟨0x0059, "asBDpInBDqOkBDwOmBDsVqBDvLOwBDoLSsBExLSuBDxLSwBDrLSy"⟩,
  ⟨0x005A, "amBDpOnBDvOpBEaOrBDqLOyBExLPaBFlLPc"⟩,
  ⟨0x0061, "aBgBDoIqBDpIrBDqIsBDrItBDwIuBDyIvBDsJxBDuJzBFcKbBEaRuBEdTtBEfTvBDvVfBEzLJlBExLPpBDxLPr"⟩,
  ⟨0x0062, "agBDvLJnBExLJpBFlLJrakBFbIxBDpKdBDqKfBDvKhBEaKj"⟩,
  ⟨0x0064, "amBEaKlBDvLJvBExLJxBFlLJzBFbLKbBFhLKd"⟩,
  ⟨0x0065, "aBiBDoIyBDpIzBDqJaBDwJbBDsKpBDuKrBDvKtBFcKvBEaKxBEdTxBEfTzBFbVhBFhLKjBFkLKlBExLQnBDxLQpBDrLQr"⟩,
  ⟨0x0066, "acBDvLKpaoBDqKzBDuLbBDvLdBFbLfBEaStBDpThBDsLKr"⟩,
  ⟨0x0068, "aqBDqLhBEaUxBDvLKtBExLKvBDwLKxBFbLKzBFiLLbBFlLPe"⟩,
  ⟨0x0069, "aBcBDoJcBDpJdBDqJeBDwJfBDrLlBDsLnBDuLpBFcLrBEaRwBEdUbBEfUdBFkLLdBDxLRdBExLRf"⟩,
  ⟨0x006A, "aeBDqLxBEaTcakBFbLzBEaSvBDpLLhBExLLjBFlLLlamBDpMcBFbMeBEaMgBExLLnBFlLLrBFhLLt"⟩,
  ⟨0x006D, "agBDpLLvBDvLLxBExLLzasBDrJhBDpMmBFbMoBEaMqBDoTlBDvLMbBExLMdBFlLMfBFhLMh"⟩,
  ⟨0x006F, "aBgBDoJiBDpJjBDqJkBDrJlBDwJmBDsMvBDuMxBDzMzBEpQbBEaRyBFcSxBEdUfBEfUhBDvVnBExLRhBDxLRj"⟩,
  ⟨0x0070, "aeBDpLMrBDvLMtbqBDpNdBFbNfBEaNhBEdUjBEfUlBDvLMvBExLMxBFlLNb"⟩,
  ⟨0x0073, "aoBDpNjBDqNlBFbNnBEaNpBFaUrBDvLNdBExLNf"⟩,
  ⟨0x0074, "aqBFbNrBEaNtBFaUtBDvLNnBExLNpBFlLNrBFhLNtBDwLPf"⟩,
  ⟨0x0075, "aBmBDoJpBDpJqBDqJrBDwJsBDrNxBDsNzBDuObBDyOdBDzOfBFcOhBEpQqBEaSaBEdUnBEfUpBEyLNvBFkLNxBFhLNzBExLSfBDxLSh"⟩,
  ⟨0x0076, "aeBDrLOfBExLOhaoBDqOjBDoLOjBDpLOlBDwLOnBDvLOpBExLOrBDyLPgaeBDvLOtBDwLOv"⟩,
  ⟨0x0079, "auBDpJtBDwJvBDqOlBDsVrBDvLOxBDyLPhBDoLStBExLSvBDxLSxBDrLSz"⟩,
  ⟨0x007A, "amBDpOoBDvOqBEaOsBDqLOzBExLPbBFlLPdBtgBDpBIrBGcMArBDoMCj"⟩,
  ⟨0x00C2, "aiBDpLPsBDoLPuBDxLPwBDrLPybcBDsSkacBDpTmaeBDsSoBDpToacBDpLJs"⟩,
  ⟨0x00CA, "aiBDpLQsBDoLQuBDxLQwBDrLQyecBDpLLeeiBDpLRkBDoLRmBDxLRoBDrLRqagBDsVkBDpLMiBDwLMk"⟩,
  ⟨0x00D6, "acBDsVibcBDpTqdiBDsSbBDpSdBEaSfBDoShfiBDpLPtBDoLPvBDxLPxBDrLPzbcBDsSlacBDpTn"⟩,
  ⟨0x00E6, "aeBDsSpBDpTpacBDpLJtciBDpLQtBDoLQvBDxLQxBDrLQzecBDpLLfeiBDpLRlBDoLRnBDxLRpBDrLRr"⟩,
  ⟨0x00F5, "agBDsVlBDpLMjBDwLMlacBDsVjbcBDpTrdiBDsScBDpSeBEaSgBDoSi"⟩,
  ⟨0x0102, "aiBDpLQcBDoLQeBDxLQgBDrLQiaiBDpLQdBDoLQfBDxLQhBDrLQjoeBDoLKeBDpLKgaeBDoLKfBDpLKh"⟩,
  ⟨0x014C, "aeBDoLMmBDpLMoaeBDoLMnBDpLMpmcBDvLNgacBDvLNhecBDvLNiacBDvLNjgcBDpLOaacBDpLOb"⟩,
  ⟨0x016A, "acBDwLOcacBDwLOdtcBDvLPjBgkBDpLRuBDoLRwBDxLRyBDrLSaBExLSc"⟩,
  ⟨0x01A1, "akBDpLRvBDoLRxBDxLRzBDrLSbBExLSdnkBDpLSiBDoLSkBDxLSmBDrLSoBExLSq"⟩,
  ⟨0x01B0, "akBDpLSjBDoLSlBDxLSnBDrLSpBExLSrgcBEaTaBycBDsSyacBDsSzCgcBDsSmacBDsSnacBDuLKm"⟩,
  ⟨0x0229, "acBDuLKnecBDsVoacBDsVpDucBEaTbJuoBDpBIsBEhLToBEiLTpBDuMAiBDsMAjBDoMAkBGfMAm"⟩,
  ⟨0x0395, "aiBDpBIuBEhLUeBEiLUfBDoMAybkBDpBIvBEhLUuBEiLUvBDoMBaBGfMBc"⟩,
  ⟨0x0399, "aoBDpBIwBDwBKcBEhLVkBEiLVlBDuMBoBDsMBpBDoMBqfiBDpBIyBEhLWaBEiLWbBDoMCubcBEiMCi"⟩,
  ⟨0x03A5, "amBDpBJaBDwBKdBEiLWrBDuMCeBDsMCfBDoMCgdkBDpBJbBEhLXgBEiLXhBDoMCwBGfMCyccBGfMAe"⟩,
  ⟨0x03AE, "acBGfMAucqBDpBKeBEhLTgBEiLThBDoLXoBDuMAaBDsMAbBGfMAdBGcMAg"⟩,
  ⟨0x03B5, "aiBDpBKfBEhLTwBEiLTxBDoLXqbmBDpBKgBEhLUmBEiLUnBDoLXsBGfMAtBGcMAw"⟩,
  ⟨0x03B9, "aqBDpBKhBDwBLiBEhLVcBEiLVdBDoLXuBDuMBgBDsMBhBGcMBmfiBDpBLkBEhLVsBEiLVtBDoLXw"⟩,
  ⟨0x03C1, "aeBEhMCaBEiMCbdqBDwBLjBDpBLlBEhLWiBEiLWjBDoLXyBDuMBwBDsMBxBGcMCc"⟩,
  ⟨0x03C9, "amBDpBLmBEhLWyBEiLWzBDoLYaBGfMCpBGcMCsagBDpBJcBDoMBiBGcMBnagBDpBKiBDoMByBGcMCd"⟩,
  ⟨0x03CE, "acBGfMCqdeBDpBLrBDwBLsBzcBDwBNrjeBDuBVkBDwBVmccBDpBNnbgBDoBNkBDwBNlBDuBVq"⟩,
  ⟨0x0416, "aeBDuBUvBDwBVwacBDwBVyaiBDoBNxBDuBOjBDsBWcBDwBWebcBDpBNwdcBDwBWg"⟩,
  ⟨0x0423, "aiBDuBNyBDsBWoBDwBWqBDzBWsdcBDwBWudcBDwBWybcBDwBWmceBDuBVlBDwBVnccBDpBQp"⟩,
  ⟨0x0435, "agBDoBQmBDwBQnBDuBVraeBDuBUwBDwBVxacBDwBVzaiBDuBPpBDoBQzBDsBWdBDwBWfbcBDpBQy"⟩,
  ⟨0x043E, "acBDwBWheiBDuBRaBDsBWpBDwBWrBDzBWtdcBDwBWvdcBDwBWzbcBDwBWnicBDwBQtBdcBEdBRy"⟩,
  ⟨0x0475, "acBEdBRzDucBDwBVuacBDwBVvocBDwBWkacBDwBWlMfgCKhCIkCKiCIlCKjCInBgcCKiCImbcCKiCIo"⟩,
  ⟨0x06C1, "acCKiCOoqcCKiCPfccCKiCOmWwcDMyDMfhcDMyDMnccDMyDMqFreDRyDSlDSxDSm"⟩,
  ⟨0x0B47, "agEHqEHcEGsEHfEHrEHgCwcEMpEKaBzeELqEMcEMpEMeacELqEMdEwcERmEQyEqcEWjEVo"⟩,
  ⟨0x0CC6, "agEWjEVvEWkEVwEVqEVydcEWjEVzEteFAkFAwFBjFAyacFAkFAxFpgFFuFGkFFzFGmFGpFGoccFFuFGn"⟩,
  ⟨0x1025, "acGDiGDaEDbcKHxKGcbcKHxKGebcKHxKGgbcKHxKGibcKHxKGkdcKHxKGoBocKHxKIdbcKHxKIf"⟩,
  ⟨0x1B3E, "acKHxKIiacKHxKIjccKHxKIlBDbcBDsLLoacBDsLLpBicBDsLMyacBDsLMzgcBDvLNkacBDvLNl"⟩,
  ⟨0x1EA0, "aeBDqLQaBDuLQkaeBDqLQbBDuLQlwcBDqLRaacBDqLRbscBDqLRsacBDqLRt"⟩,
  ⟨0x1F00, "aiBDoLTiBDpLTkBGcLTmBGfLYeaiBDoLTjBDpLTlBGcLTnBGfLYfacBGfLYgacBGfLYhacBGfLYi"⟩,
  ⟨0x1F05, "acBGfLYjacBGfLYkacBGfLYlaiBDoLTqBDpLTsBGcLTuBGfLYmaiBDoLTrBDpLTtBGcLTvBGfLYn"⟩,
  ⟨0x1F0A, "acBGfLYoacBGfLYpacBGfLYqacBGfLYracBGfLYsacBGfLYtaeBDoLTyBDpLUaaeBDoLTzBDpLUb"⟩,
  ⟨0x1F18, "aeBDoLUgBDpLUiaeBDoLUhBDpLUjgiBDoLUoBDpLUqBGcLUsBGfLYuaiBDoLUpBDpLUrBGcLUtBGfLYv"⟩,
  ⟨0x1F22, "acBGfLYwacBGfLYxacBGfLYyacBGfLYzacBGfLZaacBGfLZbaiBDoLUwBDpLUyBGcLVaBGfLZc"⟩,
  ⟨0x1F29, "aiBDoLUxBDpLUzBGcLVbBGfLZdacBGfLZeacBGfLZfacBGfLZgacBGfLZhacBGfLZiacBGfLZj"⟩,
  ⟨0x1F30, "agBDoLVeBDpLVgBGcLViagBDoLVfBDpLVhBGcLVjggBDoLVmBDpLVoBGcLVqagBDoLVnBDpLVpBGcLVr"⟩,
  ⟨0x1F40, "aeBDoLVuBDpLVwaeBDoLVvBDpLVxgeBDoLWcBDpLWeaeBDoLWdBDpLWfggBDoLWkBDpLWmBGcLWo"⟩,
  ⟨0x1F51, "agBDoLWlBDpLWnBGcLWphgBDoLWtBDpLWvBGcLWxgiBDoLXaBDpLXcBGcLXeBGfLZk"⟩,
  ⟨0x1F61, "aiBDoLXbBDpLXdBGcLXfBGfLZlacBGfLZmacBGfLZnacBGfLZoacBGfLZpacBGfLZqacBGfLZr"⟩,
  ⟨0x1F68, "aiBDoLXiBDpLXkBGcLXmBGfLZsaiBDoLXjBDpLXlBGcLXnBGfLZtacBGfLZuacBGfLZvacBGfLZw"⟩,
  ⟨0x1F6D, "acBGfLZxacBGfLZyacBGfLZzacBGfMAcdcBGfMAshcBGfMCoCfcBGfMAhigBDoMBdBDpMBeBGcMBf"⟩,
  ⟨0x1FC6, "acBGfMAxBvcBGfMCthgBDoMBtBDpMBuBGcMBvPlcBFsMSwbcBFsMSxbcBFsMTqChcBFsMUvbcBFsMUx"⟩,
  ⟨0x21D4, "acBFsMUwBucBFsMWyecBFsMXdccBFsMXgxcBFsMYebcBFsMYgwcBFsMZhgcBFsMZkbcBFsMZn"⟩,
  ⟨0x2248, "acBFsMZpecBFsNAztcBFsNAoccBFsNBcacBFsNBdmcBFsNBgacBFsNBhccBFsNBkacBFsNBlccBFsNBs"⟩,
  ⟨0x227B, "acBFsNBtacBFsNFkacBFsNFlecBFsNBwacBFsNBxccBFsNCaacBFsNCbjcBFsNFmacBFsNFnpcBFsNDk"⟩,
  ⟨0x22A8, "acBFsNDlacBFsNDmbcBFsNDngcBFsNFuacBFsNFvacBFsNFwacBFsNFxFDocSKnSKiecSKnSHo"⟩,
  ⟨0x304D, "acSKnSHqbcSKnSHsbcSKnSHubcSKnSHwbcSKnSHybcSKnSIabcSKnSIcbcSKnSIebcSKnSIgbcSKnSIi"⟩,
  ⟨0x3061, "acSKnSIkccSKnSInbcSKnSIpbcSKnSIrgeSKnSIySKoSIzceSKnSJbSKoSJcceSKnSJeSKoSJf"⟩,
  ⟨0x3078, "aeSKnSJhSKoSJiceSKnSJkSKoSJlBhcSKnSKsicSKnSOaecSKnSLgbcSKnSLibcSKnSLkbcSKnSLm"⟩,
  ⟨0x30B3, "acSKnSLobcSKnSLqbcSKnSLsbcSKnSLubcSKnSLwbcSKnSLybcSKnSMabcSKnSMcccSKnSMfbcSKnSMh"⟩,
  ⟨0x30C8, "acSKnSMjgeSKnSMqSKoSMrceSKnSMtSKoSMuceSKnSMwSKoSMxceSKnSMzSKoSNaceSKnSNcSKoSNd"⟩,
  ⟨0x30EF, "acSKnSOdacSKnSOeacSKnSOfacSKnSOgkcSKnSOkDCPocBDvDVDphcBDvDVEqEBucDZHiDZGc"⟩,
  ⟨0x1109B, "acDZHiDZGejcDZHiDZGtFjcDZLnDZLuacDZLnDZLvUmeEAGcEAGpEAHbEAGqCgcEALlEAIt"⟩,
  ⟨0x11384, "acEAKxEAIvgcEALeEAJeecEALlEAJhBxgEALeEALhEAKuEALjEALlEALk"⟩,
  ⟨0x114B9, "agEAUsEAUtEAUiEAUuEAUvEAUwJucEBEdEBEoacEBEdEBEpBIhcECMqECMy"⟩,
  ⟨0x1611E, "aiFDSwFDSzFDThFDTaFDSxFDTbFDSyFDTdceFDSxFDTeFDSyFDTgacFDSxFDTfgcFDSxFDTc"⟩,
  ⟨0x16D63, "acFIJvFIJxdcFIJvFIJwbcFIJvFIJy"⟩]

end SecureSockets.Unicode.Normal
