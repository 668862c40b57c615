import SecureSockets.Unicode.Table

namespace SecureSockets.Unicode.Joining

/-!
Joining types of the Unicode character database, version 17.0. A run's class is the
place of the type in the list of all types; all other code points do not join.
-/

def rows : List Row := [
  ⟨0x0000, "GrabfWwaEifKpahfKdaBtfbabfbacfbacfbabfCualfbabfdabcbaeebcbebcbefceencbbhcbeccvf"⟩,
  ⟨0x0660, "oaccbfdebadeqcseBmcbeccjebcbebcbecccebabehfcagfcacfbaefcekadccabcpabfbebfdcfeec"⟩,
  ⟨0x071E, "bejcbebcbebcbeccbeBbfcabelcdepcceecbebccedccegcBmalfzaBhcjfgabbcabfyaefbajfbadf"⟩,
  ⟨0x0828, "baffsabefccebcbekcbebcdedfeabcbaecbabebccefatedbbccafcbebchajfkcdebabecccegcbepc"⟩,
  ⟨0x08C9, "bayfbaBgfCdabfbabfeaifeabfdahfkacfBdabfCgabfeaefiabfuacfBaabfcacfCfabfeacfeacfca"⟩,
  ⟨0x0A4B, "dfdabfBeacfdabflacfCfabfeaffbacfeabfuacfwagfbabfCgabfcabfbaefiabfhacflacfBeabf"⟩,
  ⟨0x0B83, "CjabfmabfByabfdabfCdabfbadffadfbaefhacflacfBdabfCgabfcabfgabffacfuacfBcacfCfacf"⟩,
  ⟨0x0D3D, "eaefiabfuacfBdabfCuabfhadfbabfDmabfcahfmaifDuabfcajflahfCvacfBbabfbabfbabfCdaof"⟩,
  ⟨0x0F7F, "baffbacffalfbaBkfjabfDyaefbagfbacfcacfzacfeadfqaefnabfcacfgabfpabfBBbadfBKkadf"⟩,
  ⟨0x1715, "BdacfBeacfBeacfCmacfbahfiabfcalfjabfBpabccabbdfbabfqaDlcmacfBicbfbcEnadfeacfjabf"⟩,
  ⟨0x1933, "gadfIlacfcabfCgabfbahfbabfbabfcaifgakfcabfBwaBufcamfuaefBwabfbaffbabffabfBoajfma"⟩,
  ⟨0x1B80, "cfBgaefcacfbadfCeabfbacfdabfbadfCgaifcacfFwadfbanfbahfeabfgabfdacfHqaCmfUdabfba"⟩,
  ⟨0x200D, "bbcfBaaffBxafffagfDsaBhfEOcadfFlabfDsaBgfViaefEdacfBSQeaefbakfBgacfDcacfKmabfda"⟩,
  ⟨0xA806, "bfeabfzacffabftaBycbdDdacfBaasfnabfBmaifzalfBuadfBwabfcaefcacfBnabfCpagfcacfcacf"⟩,
  ⟨0xAA37, "mabfiabfBvabfBzabfbadfcacffacfbabfBqacfiabfJeabfcabfeabfBDZsabfBCjaqfqaqfHzabf"⟩,
  ⟨0xFF00, "JpadfTtabfIsabfFtaffCMgadfbacffaefBoadfeabfEyafcbebabebacecabdfeecbdfcbedcbecabe"⟩,
  ⟨0x10AE5, "cfeaecbeFoabcbebcdedcbeccbebccebcbexaeeccMzabdBhcbebcefCnaffMfacfvabeccbaccByagf"⟩,
  ⟨0x10F00, "BwadcbercbalfdcbeBbaeccemcefBqabcbaccdebabcceccbeccbabccebceabebcbdCbabfCcapfBpa"⟩,
  ⟨0x11070, "bfcacfkadfBxaefcacfhabfCjadfBkaffbaifCkabfmacfCaajfkaefcabfDradfcabfbacfgabfcabf"⟩,
  ⟨0x11242, "GbabfdaifvacfCfacfdabfBlahfdaffCsagfnabfbabfbabfoacfDhaifcadfbabfxabfDgagfbabfea"⟩,
  ⟨0x114BF, "cfbacfJeaefgacfbacfBbacfDhaifcabfbacfEcabfbabfcagfbabfDxabfbabfcaefbaffJzajfbacf"⟩,
  ⟨0x1183B, "JwacfbabfeabfFoaefcacfeabfBgakfBoagfcaefiabfjagfcadfBuanfbacfHqabfbadfbabfHtahf"⟩,
  ⟨0x11C37, "bagfbabfDeawfcahfbacfbacfEsagfdabfbacfbahfbabfCuacfdabfbabfNjacflacfCaafffabfba"⟩,
  ⟨0x11F42, "bfxabfHXdarfgapfQYyamfdadfDSaaffChahfBOiabfClaefDdabfBDBkacfbaefGYuaBufcaxfUyadf"⟩,
  ⟨0x1D16A, "jaqfcahfBeaefFsadfCYdaCdfeaByfiabfoabfwaffbapfCAiahfbarfcahfbacfbaffDwabfGeahf"⟩,
  ⟨0x1E137, "OlabfCjaefToaefJuacfJjabfcabfhacffabfSgahfBpaCqcifBTBYzabfBeaDsfEyaJgf"⟩]

end SecureSockets.Unicode.Joining
