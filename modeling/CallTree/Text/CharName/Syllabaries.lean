import CallTree.Text.CharName.Packed

/-!
# Names of characters: syllabaries

The characters from U+1000 on and below U+2000: scripts of South East Asia, the Caucasus,
Africa and the Americas, and the further Latin and Greek letters.
-/

namespace CallTree.Text.CharName

/-- The names of these characters. -/
def syllabaries : List Run := [
  ⟨0x1000, "aMYANMAR ! KAcKHAcGAcGHAcNGAcCAcCHAcJAcJHAcNYAcNNYAcTTAcTTHAcDDAcDDHAcNNAcTAcTHAcDA
cDHAcNAcPAcPHAcBAcBHAcMAcYAcRAcLAcWAcSAcHAcLLAcAcSHAN AcIcIIcUcUUcEcMON EcOcAUbVOWEL * TALL AAdAA
dIdIIdUdUUdEdAIdMON IIeOdE ,b* ANUSVARAcDOT <cVISARGAcVIRAMAcASATbCONSONANT * MEDIAL YAeRAeWAeHA
b! GREAT SAbDIGIT ZEROcONEcTWOc|cFOURcFIVEcSIXcSEVENcEIGHTcNINEb* LITTLE SECTIONcSECTION
bn LOCATIVEcCOMPLETEDcAFOREMENTIONEDcGENITIVEb! SHAcSSAcVOCALIC RdRRdLdLLbVOWEL * VOCALIC ReRReL
eLLb! MON NGAdJHAdBBAdBBEbCONSONANT * MON MEDIAL NAfMAfLAb! SGAW KAREN SHAbVOWEL * SGAW KAREN EU
bTONE r SGAW KAREN HATHIfKE PHOb! WESTERN PWO KAREN THAfPWAbVOWEL * WESTERN PWO KAREN EUgUE
b* WESTERN PWO KAREN TONE-1zzzzb! EASTERN PWO KAREN NNAfYWAfGHWAbVOWEL * GEBA KAREN IdKAYAH OEeU
eEEb! SHAN KAdKHAdGAdCAdZAdNYAdDAdNAdPHAdFAdBAdTHAdHAbCONSONANT * SHAN MEDIAL WAbVOWEL * SHAN AA
eEeE ,e= Yb* SHAN TONE-2zdTONE-5zdCOUNCIL TONE-2zeEMPHATIC TONEb! RUMAI PALAUNG FA
b* RUMAI PALAUNG TONE-5bSHAN DIGIT ZEROdONEdTWOd|dFOURdFIVEdSIXdSEVENdEIGHTdNINEb* KHAMTI TONE-1
dTONE-3bVOWEL * AITON AeAIbn SHAN ONEdEXCLAMATIONaGEORGIAN % ! ANdBANdGANdDONdENdVINdZENdTANdIN
dKANdLASdMANdNARdONdPARdZHARdRAEdSANdTARdUNdPHARdKHARdGHANdQARdSHINdCHINdCANdJILdCILdCHARdXAN
dJHANdHAEdHEdHIEdWEdHARdHOE"⟩,
  ⟨0x10c7, "aGEORGIAN % ! YN"⟩,
  ⟨0x10cd, "aGEORGIAN % ! AEN"⟩,
  ⟨0x10d0, "aGEORGIAN ! ANcBANcGANcDONcENcVINcZENcTANcINcKANcLAScMANcNARcONcPARcZHARcRAEcSANcTAR
cUNcPHARcKHARcGHANcQARcSHINcCHINcCANcJILcCILcCHARcXANcJHANcHAEcHEcHIEcWEcHARcHOEcFIcYNcELIFI
cTURNED GANcAINbPARAGRAPH SEPARATORaMODIFIER ! GEORGIAN NARaGEORGIAN ! AENcHARD *cLABIAL *
aHANGUL CHOSEONG KIYEOKcSSANGKIYEOKcNIEUNcTIKEUTcSSANGTIKEUTcRIEULcMIEUMcPIEUPcSSANGPIEUPcSIOS
cSSANGSIOScIEUNGcCIEUCcSSANGCIEUCcCHIEUCHcKHIEUKHcTHIEUTHcPHIEUPHcHIEUHcNIEUN-KIYEOKcSSANGNIEUN
cNIEUN-TIKEUTcNIEUN-PIEUPcTIKEUT-KIYEOKcRIEUL-NIEUNcSSANGRIEULcRIEUL-HIEUHcKAPYEOUNRIEUL
cMIEUM-PIEUPcKAPYEOUNMIEUMcPIEUP-KIYEOKcPIEUP-NIEUNcPIEUP-TIKEUTcPIEUP-SIOScPIEUP-SIOS-KIYEOK
cPIEUP-SIOS-TIKEUTcPIEUP-SIOS-PIEUPcPIEUP-SSANGSIOScPIEUP-SIOS-CIEUCcPIEUP-CIEUCcPIEUP-CHIEUCH
cPIEUP-THIEUTHcPIEUP-PHIEUPHcKAPYEOUNPIEUPcKAPYEOUNSSANGPIEUPcSIOS-KIYEOKcSIOS-NIEUNcSIOS-TIKEUT
cSIOS-RIEULcSIOS-MIEUMcSIOS-PIEUPcSIOS-PIEUP-KIYEOKcSIOS-SSANGSIOScSIOS-IEUNGcSIOS-CIEUC
cSIOS-CHIEUCHcSIOS-KHIEUKHcSIOS-THIEUTHcSIOS-PHIEUPHcSIOS-HIEUHcCHITUEUMSIOScCHITUEUMSSANGSIOS
cCEONGCHIEUMSIOScCEONGCHIEUMSSANGSIOScPANSIOScIEUNG-KIYEOKcIEUNG-TIKEUTcIEUNG-MIEUMcIEUNG-PIEUP
cIEUNG-SIOScIEUNG-PANSIOScSSANGIEUNGcIEUNG-CIEUCcIEUNG-CHIEUCHcIEUNG-THIEUTHcIEUNG-PHIEUPH
cYESIEUNGcCIEUC-IEUNGcCHITUEUMCIEUCcCHITUEUMSSANGCIEUCcCEONGCHIEUMCIEUCcCEONGCHIEUMSSANGCIEUC
cCHIEUCH-KHIEUKHcCHIEUCH-HIEUHcCHITUEUMCHIEUCHcCEONGCHIEUMCHIEUCHcPHIEUPH-PIEUPcKAPYEOUNPHIEUPH
cSSANGHIEUHcYEORINHIEUHcKIYEOK-TIKEUTcNIEUN-SIOScNIEUN-CIEUCcNIEUN-HIEUHcTIKEUT-RIEULcFILLER
bJUNGSEONG FILLERcAcAEcYAcYAEcEOcEcYEOcYEcOcWAcWAEcOEcYOcUcWEOcWEcWIcYUcEUcYIcIcA-OcA-UcYA-O
cYA-YOcEO-OcEO-UcEO-EUcYEO-OcYEO-UcO-EOcO-EcO-YEcO-OcO-UcYO-YAcYO-YAEcYO-YEOcYO-OcYO-IcU-AcU-AE
cU-EO-EUcU-YEcU-UcYU-AcYU-EOcYU-EcYU-YEOcYU-YEcYU-UcYU-IcEU-UcEU-EUcYI-UcI-AcI-YAcI-OcI-UcI-EU
cI-ARAEAcARAEAcARAEA-EOcARAEA-UcARAEA-IcSSANGARAEAcA-EUcYA-UcYEO-YAcO-YAcO-YAEbJONGSEONG KIYEOK
cSSANGKIYEOKcKIYEOK-SIOScNIEUNcNIEUN-CIEUCcNIEUN-HIEUHcTIKEUTcRIEULcRIEUL-KIYEOKcRIEUL-MIEUM
cRIEUL-PIEUPcRIEUL-SIOScRIEUL-THIEUTHcRIEUL-PHIEUPHcRIEUL-HIEUHcMIEUMcPIEUPcPIEUP-SIOScSIOS
cSSANGSIOScIEUNGcCIEUCcCHIEUCHcKHIEUKHcTHIEUTHcPHIEUPHcHIEUHcKIYEOK-RIEULcKIYEOK-SIOS-KIYEOK
cNIEUN-KIYEOKcNIEUN-TIKEUTcNIEUN-SIOScNIEUN-PANSIOScNIEUN-THIEUTHcTIKEUT-KIYEOKcTIKEUT-RIEUL
cRIEUL-KIYEOK-SIOScRIEUL-NIEUNcRIEUL-TIKEUTcRIEUL-TIKEUT-HIEUHcSSANGRIEULcRIEUL-MIEUM-KIYEOK
cRIEUL-MIEUM-SIOScRIEUL-PIEUP-SIOScRIEUL-PIEUP-HIEUHcRIEUL-KAPYEOUNPIEUPcRIEUL-SSANGSIOS
cRIEUL-PANSIOScRIEUL-KHIEUKHcRIEUL-YEORINHIEUHcMIEUM-KIYEOKcMIEUM-RIEULcMIEUM-PIEUPcMIEUM-SIOS
cMIEUM-SSANGSIOScMIEUM-PANSIOScMIEUM-CHIEUCHcMIEUM-HIEUHcKAPYEOUNMIEUMcPIEUP-RIEULcPIEUP-PHIEUPH
cPIEUP-HIEUHcKAPYEOUNPIEUPcSIOS-KIYEOKcSIOS-TIKEUTcSIOS-RIEULcSIOS-PIEUPcPANSIOScIEUNG-KIYEOK
cIEUNG-SSANGKIYEOKcSSANGIEUNGcIEUNG-KHIEUKHcYESIEUNGcYESIEUNG-SIOScYESIEUNG-PANSIOScPHIEUPH-PIEUP
cKAPYEOUNPHIEUPHcHIEUH-NIEUNcHIEUH-RIEULcHIEUH-MIEUMcHIEUH-PIEUPcYEORINHIEUHcKIYEOK-NIEUN
cKIYEOK-PIEUPcKIYEOK-CHIEUCHcKIYEOK-KHIEUKHcKIYEOK-HIEUHcSSANGNIEUNaETHIOPIC SYLLABLE HAcHUcHI
cHAAcHEEcHEcHOcHOAcLAcLUcLIcLAAcLEEcLEcLOcLWAcHHAcHHUcHHIcHHAAcHHEEcHHEcHHOcHHWAcMAcMUcMIcMAAcMEE
cMEcMOcMWAcSZAcSZUcSZIcSZAAcSZEEcSZEcSZOcSZWAcRAcRUcRIcRAAcREEcREcROcRWAcSAcSUcSIcSAAcSEEcSEcSO
cSWAcSHAcSHUcSHIcSHAAcSHEEcSHEcSHOcSHWAcQAcQUcQIcQAAcQEEcQEcQOcQOAcQWA"⟩,
  ⟨0x124a, "aETHIOPIC SYLLABLE QWIcQWAAcQWEEcQWE"⟩,
  ⟨0x1250, "aETHIOPIC SYLLABLE QHAcQHUcQHIcQHAAcQHEEcQHEcQHO"⟩,
  ⟨0x1258, "aETHIOPIC SYLLABLE QHWA"⟩,
  ⟨0x125a, "aETHIOPIC SYLLABLE QHWIcQHWAAcQHWEEcQHWE"⟩,
  ⟨0x1260, "aETHIOPIC SYLLABLE BAcBUcBIcBAAcBEEcBEcBOcBWAcVAcVUcVIcVAAcVEEcVEcVOcVWAcTAcTUcTIcTAA
cTEEcTEcTOcTWAcCAcCUcCIcCAAcCEEcCEcCOcCWAcXAcXUcXIcXAAcXEEcXEcXOcXOAcXWA"⟩,
  ⟨0x128a, "aETHIOPIC SYLLABLE XWIcXWAAcXWEEcXWE"⟩,
  ⟨0x1290, "aETHIOPIC SYLLABLE NAcNUcNIcNAAcNEEcNEcNOcNWAcNYAcNYUcNYIcNYAAcNYEEcNYEcNYOcNYWA
cGLOTTAL AdUdIdAAdEEdEdOdWAcKAcKUcKIcKAAcKEEcKEcKOcKOAcKWA"⟩,
  ⟨0x12b2, "aETHIOPIC SYLLABLE KWIcKWAAcKWEEcKWE"⟩,
  ⟨0x12b8, "aETHIOPIC SYLLABLE KXAcKXUcKXIcKXAAcKXEEcKXEcKXO"⟩,
  ⟨0x12c0, "aETHIOPIC SYLLABLE KXWA"⟩,
  ⟨0x12c2, "aETHIOPIC SYLLABLE KXWIcKXWAAcKXWEEcKXWE"⟩,
  ⟨0x12c8, "aETHIOPIC SYLLABLE WAcWUcWIcWAAcWEEcWEcWOcWOAcPHARYNGEAL AdUdIdAAdEEdEdO"⟩,
  ⟨0x12d8, "aETHIOPIC SYLLABLE ZAcZUcZIcZAAcZEEcZEcZOcZWAcZHAcZHUcZHIcZHAAcZHEEcZHEcZHOcZHWAcYA
cYUcYIcYAAcYEEcYEcYOcYOAcDAcDUcDIcDAAcDEEcDEcDOcDWAcDDAcDDUcDDIcDDAAcDDEEcDDEcDDOcDDWAcJAcJUcJI
cJAAcJEEcJEcJOcJWAcGAcGUcGIcGAAcGEEcGEcGOcGOAcGWA"⟩,
  ⟨0x1312, "aETHIOPIC SYLLABLE GWIcGWAAcGWEEcGWE"⟩,
  ⟨0x1318, "aETHIOPIC SYLLABLE GGAcGGUcGGIcGGAAcGGEEcGGEcGGOcGGWAAcTHAcTHUcTHIcTHAAcTHEEcTHEcTHO
cTHWAcCHAcCHUcCHIcCHAAcCHEEcCHEcCHOcCHWAcPHAcPHUcPHIcPHAAcPHEEcPHEcPHOcPHWAcTSAcTSUcTSIcTSAAcTSEE
cTSEcTSOcTSWAcTZAcTZUcTZIcTZAAcTZEEcTZEcTZOcTZOAcFAcFUcFIcFAAcFEEcFEcFOcFWAcPAcPUcPIcPAAcPEEcPE
cPOcPWAcRYAcMYAcFYA"⟩,
  ⟨0x135d, "aETHIOPIC COMBINING GEMINATION > VOWEL LENGTH rcVOWEL LENGTH rcGEMINATION rbSECTION r
bWORDSPACEbFULL STOPbCOMMAbSEMICOLONbCOLONbPREFACE COLONbQUESTION rbPARAGRAPH SEPARATORbDIGIT ONE
cTWOc|cFOURcFIVEcSIXcSEVENcEIGHTcNINEbNUMBER TENcTWENTYcTHIRTYcFORTYcFIFTYcSIXTYcSEVENTYcEIGHTY
cNINETYctcTEN v"⟩,
  ⟨0x1380, "aETHIOPIC SYLLABLE SEBATBEIT MWAcMWIcMWEEcMWEcSEBATBEIT BWAcBWIcBWEEcBWE
cSEBATBEIT FWAcFWIcFWEEcFWEcSEBATBEIT PWAcPWIcPWEEcPWEbTONAL r YIZETdDERETdRIKRIKdSHORT RIKRIK
dDIFATdKENATdCHIRETdHIDETdDERET-HIDETdKURT"⟩,
  ⟨0x13a0, "aCHEROKEE ! AcEcIcOcUzcGAcKAcGEcGIcGOcGUzcHAcHEcHIcHOcHUzcLAcLEcLIcLOcLUzcMAcMEcMIcMO
cMUcNAcHNAcNAHcNEcNIcNOcNUzcQUAcQUEcQUIcQUOcQUUzcSAcScSEcSIcSOcSUzcDAcTAcDEcTEcDIcTIcDOcDUzcDLA
cTLAcTLEcTLIcTLOcTLUzcTSAcTSEcTSIcTSOcTSUzcWAcWEcWIcWOcWUzcYAcYEcYIcYOcYUzcMV"⟩,
  ⟨0x13f8, "aCHEROKEE & ! YEdYIdYOdYUzdMV"⟩,
  ⟨0x1400, "aCANADIAN SYLLABICS HYPHENcEcAAIcIcIIcOcOOcY-CREE OOcCARRIER EEdIcAcAAcWE
cWEST-CREE WEcWIcWEST-CREE WIcWIIcWEST-CREE WIIcWOcWEST-CREE WOcWOOcWEST-CREE WOOcNASKAPI WOOcWA
cWEST-CREE WAcWAAcWEST-CREE WAAcNASKAPI WAAcAIcY-CREE WcGLOTTAL STOPc= ACUTEdGRAVE
dBOTTOM HALF RINGdTOP HALF RINGd+ HALF RINGdRINGd: ACUTEeSHORT ? STROKESds DOTdSHORT p mdPLUS
dDOWN TACKcENcINcONcANcPEcPAAIcPIcPIIcPOcPOOcY-CREE POOcCARRIER HEEdHIcPAcPAAcPWEcWEST-CREE PWE
cPWIcWEST-CREE PWIcPWIIcWEST-CREE PWIIcPWOcWEST-CREE PWOcPWOOcWEST-CREE PWOOcPWAcWEST-CREE PWA
cPWAAcWEST-CREE PWAAcY-CREE PWAAcPcWEST-CREE PcCARRIER HcTEcTAAIcTIcTIIcTOcTOOcY-CREE TOO
cCARRIER DEEdDIcTAcTAAcTWEcWEST-CREE TWEcTWIcWEST-CREE TWIcTWIIcWEST-CREE TWIIcTWOcWEST-CREE TWO
cTWOOcWEST-CREE TWOOcTWAcWEST-CREE TWAcTWAAcWEST-CREE TWAAcNASKAPI TWAAcTcTTEcTTIcTTOcTTAcKEcKAAI
cKIcKIIcKOcKOOcY-CREE KOOcKAcKAAcKWEcWEST-CREE KWEcKWIcWEST-CREE KWIcKWIIcWEST-CREE KWIIcKWO
cWEST-CREE KWOcKWOOcWEST-CREE KWOOcKWAcWEST-CREE KWAcKWAAcWEST-CREE KWAAcNASKAPI KWAAcKcKW
cSOUTH-SLAVEY KEHdKIHdKOHdKAHcCEcCAAIcCIcCIIcCOcCOOcY-CREE COOcCAcCAAcCWEcWEST-CREE CWEcCWI
cWEST-CREE CWIcCWIIcWEST-CREE CWIIcCWOcWEST-CREE CWOcCWOOcWEST-CREE CWOOcCWAcWEST-CREE CWAcCWAA
cWEST-CREE CWAAcNASKAPI CWAAcCcSAYISI THcMEcMAAIcMIcMIIcMOcMOOcY-CREE MOOcMAcMAAcMWE
cWEST-CREE MWEcMWIcWEST-CREE MWIcMWIIcWEST-CREE MWIIcMWOcWEST-CREE MWOcMWOOcWEST-CREE MWOOcMWA
cWEST-CREE MWAcMWAAcWEST-CREE MWAAcNASKAPI MWAAcMcWEST-CREE McMHcATHAPASCAN McSAYISI McNEcNAAIcNI
cNIIcNOcNOOcY-CREE NOOcNAcNAAcNWEcWEST-CREE NWEcNWAcWEST-CREE NWAcNWAAcWEST-CREE NWAA
cNASKAPI NWAAcNcCARRIER NGcNHcLEcLAAIcLIcLIIcLOcLOOcY-CREE LOOcLAcLAAcLWEcWEST-CREE LWEcLWI
cWEST-CREE LWIcLWIIcWEST-CREE LWIIcLWOcWEST-CREE LWOcLWOOcWEST-CREE LWOOcLWAcWEST-CREE LWAcLWAA
cWEST-CREE LWAAcLcWEST-CREE LcMEDIAL LcSEcSAAIcSIcSIIcSOcSOOcY-CREE SOOcSAcSAAcSWEcWEST-CREE SWE
cSWIcWEST-CREE SWIcSWIIcWEST-CREE SWIIcSWOcWEST-CREE SWOcSWOOcWEST-CREE SWOOcSWAcWEST-CREE SWA
cSWAAcWEST-CREE SWAAcNASKAPI SWAAcScATHAPASCAN ScSWcBLACKFOOT ScMOOSE-CREE SKcNASKAPI SKWdS-W
dSPWAdSTWAdSKWAdSCWAcSHEcSHIcSHIIcSHOcSHOOcSHAcSHAAcSHWEcWEST-CREE SHWEcSHWIcWEST-CREE SHWIcSHWII
cWEST-CREE SHWIIcSHWOcWEST-CREE SHWOcSHWOOcWEST-CREE SHWOOcSHWAcWEST-CREE SHWAcSHWAA
cWEST-CREE SHWAAcSHcYEcYAAIcYIcYIIcYOcYOOcY-CREE YOOcYAcYAAcYWEcWEST-CREE YWEcYWIcWEST-CREE YWI
cYWIIcWEST-CREE YWIIcYWOcWEST-CREE YWOcYWOOcWEST-CREE YWOOcYWAcWEST-CREE YWAcYWAAcWEST-CREE YWAA
cNASKAPI YWAAcYcBIBLE-CREE YcWEST-CREE YcSAYISI YIcREcR-CREE REcWEST-CREE LEcRAAIcRIcRIIcROcROO
cWEST-CREE LOcRAcRAAcWEST-CREE LAcRWAAcWEST-CREE RWAAcRcWEST-CREE RcMEDIAL RcFEcFAAIcFIcFIIcFO
cFOOcFAcFAAcFWAAcWEST-CREE FWAAcFcTHEcN-CREE THEcTHIcN-CREE THIcTHIIcN-CREE THIIcTHOcTHOOcTHA
cTHAAcTHWAAcWEST-CREE THWAAcTHcTTHEcTTHIcTTHOcTTHAcTTHcTYEcTYIcTYOcTYAcNUNAVIK HEdHIdHIIdHOdHOO
dHAdHAAdHcNUNAVUT HcHKcQAAIcQIcQIIcQOcQOOcQAcQAAcQcTLHEcTLHIcTLHOcTLHAcWEST-CREE REdRIdROdRA
cNGAAIcNGIcNGIIcNGOcNGOOcNGAcNGAAcNGcNNGcSAYISI SHEdSHIdSHOdSHAcWOODS-CREE THEdTHIdTHOdTHAdTHcLHI
cLHIIcLHOcLHOOcLHAcLHAAcLHcTH-CREE THEdTHIdTHIIdTHOdTHOOdTHAdTHAAdTHcAIVILIK BcBLACKFOOT EdIdOdA
dWEdWIdWOdWAdNEdNIdNOdNAdKEdKIdKOdKAcSAYISI HEdHIdHOdHAcCARRIER GHUdGHOdGHEdGHEEdGHIdGHAdRUdROdRE
dREEdRIdRAdWUdWOdWEdWEEdWIdWAdHWUdHWOdHWEdHWEEdHWIdHWAdTHUdTHOdTHEdTHEEdTHIdTHAdTTUdTTOdTTEdTTEE
dTTIdTTAdPUdPOdPEdPEEdPIdPAdPdGUdGOdGEdGEEdGIdGAdKHUdKHOdKHEdKHEEdKHIdKHAdKKUdKKOdKKEdKKEEdKKI
dKKAdKKdNUdNOdNEdNEEdNIdNAdMUdMOdMEdMEEdMIdMAdYUdYOdYEdYEEdYIdYAdJUcSAYISI JUcCARRIER JOdJEdJEE
dJIcSAYISI JIcCARRIER JAdJJUdJJOdJJEdJJEEdJJIdJJAdLUdLOdLEdLEEdLIdLAdDLUdDLOdDLEdDLEEdDLIdDLAdLHU
dLHOdLHEdLHEEdLHIdLHAdTLHUdTLHOdTLHEdTLHEEdTLHIdTLHAdTLUdTLOdTLEdTLEEdTLIdTLAdZUdZOdZEdZEEdZIdZA
dZd_ ZdDZUdDZOdDZEdDZEEdDZIdDZAdSUdSOdSEdSEEdSIdSAdSHUdSHOdSHEdSHEEdSHIdSHAdSHdTSUdTSOdTSEdTSEE
dTSIdTSAdCHUdCHOdCHEdCHEEdCHIdCHAdTTSUdTTSOdTTSEdTTSEEdTTSIdTTSAcCHI *cFULL STOPcQAIcNGAIcNNGI
cNNGIIcNNGOcNNGOOcNNGAcNNGAAcWOODS-CREE THWEEdTHWIdTHWIIdTHWOdTHWOOdTHWAdTHWAAd= THcBLACKFOOT W
aOGHAM SPACE rb! BEITHcLUIScFEARNcSAILcNIONcUATHcDAIRcTINNEcCOLLcCEIRTcMUINcGORTcNGEADALcSTRAIF
cRUIScAILMcONNcURcEADHADHcIODHADHcEABHADHcORcUILLEANNcIFINcEAMHANCHOLLcPEITHbFEATHER r
bREVERSED FEATHER r"⟩,
  ⟨0x16a0, "aRUNIC ! FEHU FEOH FE FcVcURUZ UR UcYRcYcWcTHURISAZ THURS THORNcETHcANSUZ AcOS OcAC A
cAESCcLONG-BRANCH-OSS OcSHORT-TWIG-OSS OcOcOEcONcRAIDO RAD REID RcKAUNAcCENcKAUN KcGcENG
cGEBO GYFU GcGARcWUNJO WYNN WcHAGLAZ HcHAEGL HcLONG-BRANCH-HAGALL HcSHORT-TWIG-HAGALL H
cNAUDIZ NYD NAUD NcSHORT-TWIG-NAUD NcDOTTED-NcISAZ IS ISS IcEcJERAN JcGERcLONG-BRANCH-AR AE
cSHORT-TWIG-AR AcIWAZ EOHcPERTHO PEORTH PcALGIZ EOLHXcSOWILO ScSIGEL LONG-BRANCH-SOL S
cSHORT-TWIG-SOL ScCcZcTIWAZ TIR TYR TcSHORT-TWIG-TYR TcDcBERKANAN BEORC BJARKAN B
cSHORT-TWIG-BJARKAN BcDOTTED-PcOPEN-PcEHWAZ EH EcMANNAZ MAN McLONG-BRANCH-MADR M
cSHORT-TWIG-MADR McLAUKAZ LAGU LOGR LcDOTTED-LcINGWAZcINGcDAGAZ DAEG DcOTHALAN ETHEL OcEARcIOR
cCWEORTHcCALCcCEALCcSTANcLONG-BRANCH-YRcSHORT-TWIG-YRcICELANDIC-YRcQcXbSINGLE PUNCTUATION
bMULTIPLE PUNCTUATIONbCROSS PUNCTUATIONbARLAUG nbTVIMADUR nbBELGTHOR nb! KcSHcOOcFRANKS CASKET OS
eISeEHeACeAESC"⟩,
  ⟨0x1700, "aTAGALOG ! AcIcUcKAcGAcNGAcTAcDAcNAcPAcBAcMAcYAcRAcLAcWAcSAcHAbVOWEL * IdUb* VIRAMA
cPAMUDPOD"⟩,
  ⟨0x171f, "aTAGALOG ! ARCHAIC RAaHANUNOO ! AcIcUcKAcGAcNGAcTAcDAcNAcPAcBAcMAcYAcRAcLAcWAcSAcHA
bVOWEL * IdUb* PAMUDPODaPHILIPPINE SINGLE PUNCTUATIONb: PUNCTUATION"⟩,
  ⟨0x1740, "aBUHID ! AcIcUcKAcGAcNGAcTAcDAcNAcPAcBAcMAcYAcRAcLAcWAcSAcHAbVOWEL * IdU"⟩,
  ⟨0x1760, "aTAGBANWA ! AcIcUcKAcGAcNGAcTAcDAcNAcPAcBAcMAcYA"⟩,
  ⟨0x176e, "aTAGBANWA ! LAcWAcSA"⟩,
  ⟨0x1772, "aTAGBANWA VOWEL * IdU"⟩,
  ⟨0x1780, "aKHMER ! KAcKHAcKOcKHOcNGOcCAcCHAcCOcCHOcNYOcDAcTTHAcDOcTTHOcNNOcTAcTHAcTOcTHOcNOcBA
cPHAcPOcPHOcMOcYOcROcLOcVOcSHAcSSOcSAcHAcLAcQAbINDEPENDENT VOWEL QAQdQAAdQIdQIIdQUdQUKdQUUdQUUV
dRYdRYYdLYdLYYdQEdQAIdQOO TYPE ONEfTWOdQAUbVOWEL INHERENT AQdAAc* AAdIdIIdYdYYdUdUUdUAdOEdYAdIEdE
dAEdAIdOOdAUb* NIKAHITcREAHMUKcYUUKALEAPINTUcMUUSIKATOANcTRIISAPcBANTOCcROBATcTOANDAKHIATcKAKABAT
cAHSDAcSAMYOK SANNYAcVIRIAMcCOENGcBATHAMASATcKHANcBARIYOOSANcCAMNUC PII KUUHcLEK TOOcBEYYAL
cPHNAEK MUANcKOOMUUTbCURRENCY n RIELb* AVAKRAHASANYAcATTHACAN"⟩,
  ⟨0x17e0, "aKHMER DIGIT ZEROcONEcTWOc|cFOURcFIVEcSIXcSEVENcEIGHTcNINE"⟩,
  ⟨0x17f0, "aKHMER n LEK ATTAK SONeMUOYePIIeBEIeBUONePRAMePRAM-MUOYePRAM-PIIePRAM-BEIePRAM-BUON"⟩,
  ⟨0x1800, "aMONGOLIAN BIRGAbELLIPSISbCOMMAbFULL STOPbCOLONbFOUR DOTSbTODO SOFT HYPHEN
bSIBE SYLLABLE BOUNDARY MARKERbMANCHU COMMAcFULL STOPbNIRUGUbFREE VARIATION SELECTOR ONEeTWOe|
bVOWEL SEPARATORbFREE VARIATION SELECTOR FOURbDIGIT ZEROcONEcTWOc|cFOURcFIVEcSIXcSEVENcEIGHTcNINE"⟩,
  ⟨0x1820, "aMONGOLIAN ! AcEcIcOcUcOEcUEcEEcNAcANGcBAcPAcQAcGAcMAcLAcSAcSHAcTAcDAcCHAcJAcYAcRAcWA
cFAcKAcKHAcTSAcZAcHAAcZRAcLHAcZHIcCHIcTODO LONG VOWEL *dEdIdOdUdOEdUEdANGdBAdPAdQAdGAdMAdTAdDA
dCHAdJAdTSAdYAdWAdKAdGAAdHAAdJIAdNIAdDZAcSIBE EdIdIYdUEdUdANGdKAdGAdHAdPAdSHAdTAdDAdJAdFAdGAAdHAA
dTSAdZAdRAAdCHAdZHAcMANCHU IdKAdRAdFAdZHAcCHA $ TWO DOTS"⟩,
  ⟨0x1880, "aMONGOLIAN ! ALI GALI ANUSVARA ONEeVISARGA ONEeDAMARUeUBADAMAeINVERTED UBADAMAeBALUDA
e| BALUDAeAeIeKAeNGAeCAeTTAeTTHAeDDAeNNAeTAeDAePAePHAeSSAeZHAeZAeAHcTODO ALI GALI TAfZHA
cMANCHU ALI GALI GHAfNGAfCAfJHAfTTAfDDHAfTAfDHAfSSAfCYAfZHAfZAcALI GALI HALF UfYA
cMANCHU ALI GALI BHAcALI GALI DAGALGAcMANCHU ALI GALI LHA"⟩,
  ⟨0x18b0, "aCANADIAN SYLLABICS OYcAYcAAYcWAYcPOYcPAYcPWOYcTAYcKAYcKWAYcMAYcNOYcNAYcLAYcSOYcSAY
cSHOYcSHAYcSHWOYcYOYcYAYcRAYcNWIcOJIBWAY NWIcNWIIcOJIBWAY NWIIcNWOcOJIBWAY NWOcNWOOcOJIBWAY NWOO
cRWEEcRWIcRWIIcRWOcRWOOcRWAcOJIBWAY PdTdKdCdMzdSdSHcEASTERN WcWESTERN Wc= & RINGdRAISED DOT
cR-CREE RWEcWEST-CREE LOOdLAAcTHWEcTHWAcTTHWEcTTHOOcTTHAAcTLHWEcTLHOOcSAYISI SHWEdSHOOdHOO
cCARRIER GWUdDENE GEEdGAAdGWAcSAYISI JUUcCARRIER JWAcBEAVER DENE LeRcCARRIER DENTAL S"⟩,
  ⟨0x1900, "aLIMBU VOWEL-CARRIER !b! KAcKHAcGAcGHAcNGAcCAcCHAcJAcJHAcYANcTAcTHAcDAcDHAcNAcPAcPHA
cBAcBHAcMAcYAcRAcLAcWAcSHAcSSAcSAcHAcGYANcTRA"⟩,
  ⟨0x1920, "aLIMBU VOWEL * AdIdUdEEdAIdOOdAUdEdObSUBJOINED ! YAdRAdWA"⟩,
  ⟨0x1930, "aLIMBU & ! KAdNGAdANUSVARAdTAdNAdPAdMAdRAdLAb* MUKPHRENGcKEMPHRENGcSA-I"⟩,
  ⟨0x1940, "aLIMBU * LOO"⟩,
  ⟨0x1944, "aLIMBU EXCLAMATION rbQUESTION rbDIGIT ZEROcONEcTWOc|cFOURcFIVEcSIXcSEVENcEIGHTcNINE
aTAI LE ! KAdXAdNGAdTSAdSAdYAdTAdTHAdLAdPAdPHAdMAdFAdVAdHAdQAdKHAdTSHAdNAdAdIdEEdEHdUdOOdOdUEdE
dAUEdAI"⟩,
  ⟨0x1970, "aTAI LE ! TONE-2zzzz"⟩,
  ⟨0x1980, "aNEW TAI LUE ! HIGH QAeLOW QAeHIGH KAfXAfNGAeLOW KAfXAfNGAeHIGH TSAfSAfYAeLOW TSAfSA
fYAeHIGH TAfTHAfNAeLOW TAfTHAfNAeHIGH PAfPHAfMAeLOW PAfPHAfMAeHIGH FAfVAfLAeLOW FAfVAfLAeHIGH HA
fDAfBAeLOW HAfDAfBAeHIGH KVAfXVAeLOW KVAfXVAeHIGH SUAeLOW SUA"⟩,
  ⟨0x19b0, "aNEW TAI LUE VOWEL * VOWEL SHORTENERfAAfIIfUfUUfEfAEfOfOAfUEfAYfAAYfUYfOYfOAYfUEYfIY
d! = VfNGfNfMfKfDfBdTONE MARK-1z"⟩,
  ⟨0x19d0, "aNEW TAI LUE DIGIT ZEROeONEeTWOe|eFOUReFIVEeSIXeSEVENeEIGHTeNINEdTHAM DIGIT ONE"⟩,
  ⟨0x19de, "aNEW TAI LUE * LAEeLAEVaKHMER n PATHAMASATcMUOY KOETcPII KOETcBEI KOETcBUON KOET
cPRAM KOETcPRAM-MUOY KOETcPRAM-PII KOETcPRAM-BEI KOETcPRAM-BUON KOETcDAP KOETcDAP-MUOY KOET
cDAP-PII KOETcDAP-BEI KOETcDAP-BUON KOETcDAP-PRAM KOETcTUTEYASATcMUOY ROCcPII ROCcBEI ROC
cBUON ROCcPRAM ROCcPRAM-MUOY ROCcPRAM-PII ROCcPRAM-BEI ROCcPRAM-BUON ROCcDAP ROCcDAP-MUOY ROC
cDAP-PII ROCcDAP-BEI ROCcDAP-BUON ROCcDAP-PRAM ROCaBUGINESE ! KAcGAcNGAcNGKAcPAcBAcMAcMPAcTAcDA
cNAcNRAcCAcJAcNYAcNYCAcYAcRAcLAcVAcSAcAcHAbVOWEL * IdUdEdOdAE"⟩,
  ⟨0x1a1e, "aBUGINESE PALLAWAbEND OF SECTIONaTAI THAM ! HIGH KAeKHAeKXAdLOW KAeKXAeKHAdNGA
dHIGH CAeCHAdLOW CAeSAeCHAdNYAdRATAdHIGH RATHAdDAdLOW RATHAdRANAdHIGH TAeTHAdLOW TAeTHAdNAdBA
dHIGH PAePHAeFAdLOW PAeFAePHAdMAdLOW YAdHIGH YAdRAdRUEdLAdLUEdWAdHIGH SHAeSSAeSAeHAdLLAdAdLOW HA
dIdIIdUdUUdEEdOOdLAEdGREAT SAcCONSONANT * MEDIAL RAfLAeLA TANG LAIc* MAI KANG LAI
cCONSONANT * = NGAeLOW PAeHIGH RATHA OR LOW PAeMAeBAeSA"⟩,
  ⟨0x1a60, "aTAI THAM * SAKOTcVOWEL * AeMAI SATeAAeTALL AAeIeIIeUEeUUEeUeUUeOeOA <eOYeEeAEeOOeAI
eTHAM AIeOA ,c* MAI KANGdTONE-1zdKHUEN TONE-3zzdRA HAAMdMAI SAMdKHUEN-LUE KARAN"⟩,
  ⟨0x1a7f, "aTAI THAM COMBINING CRYPTOGRAMMIC DOTcHORA DIGIT ZEROeONEeTWOe|eFOUReFIVEeSIXeSEVEN
eEIGHTeNINE"⟩,
  ⟨0x1a90, "aTAI THAM THAM DIGIT ZEROeONEeTWOe|eFOUReFIVEeSIXeSEVENeEIGHTeNINE"⟩,
  ⟨0x1aa0, "aTAI THAM * WIANGdWIANGWAAKdSAWANdKEOWdHOYdDOKMAIdREVERSED ROTATED RANAdMAI YAMOK
dKAANdKAANKUUdSATKAANdSATKAANKUUdHANGdCAANG"⟩,
  ⟨0x1ab0, "aCOMBINING DOUBLED x ACCENTbDIAERESIS-RINGbINFINITYbu )bTRIPLE DOTbX-X <
bWIGGLY LINE <bOPEN r <b: OPEN r <bLIGHT CENTRALIZATION m <bSTRONG CENTRALIZATION m <
bPARENTHESES ,b: PARENTHESES ,bPARENTHESES <cOVERLAYbLATIN & ! W <eTURNED W <b; PARENTHESIS , ;
b+ PARENTHESIS , +b; PARENTHESIS < ;b+ PARENTHESIS < +bSQUARE BRACKETS ,bNUMBER * ,
bINVERTED : ARCH ,bPLUS * ,b: PLUS * ,e<bTRIPLE ACUTE ACCENTbLATIN & ! INSULAR GfRfT"⟩,
  ⟨0x1b00, "aBALINESE * ULU RICEMdCANDRAcCECEKcSURANGcBISAHb! AKARAcAKARA TEDUNGcIKARA
cIKARA TEDUNGcUKARAcUKARA TEDUNGcRA REPAdREPA TEDUNGcLA LENGAdLENGA TEDUNGcEKARAcAIKARAcOKARA
cOKARA TEDUNGcKAcKA MAHAPRANAcGAcGA GORAcNGAcCAcCA LACAcJAcJA JERAcNYAcTA LATIKdMURDA MAHAPRANA
cDA MURDA ALPAPRANAeMAHAPRANAcNA RAMBATcTAcTA TAWAcDAcDA MADUcNAcPAcPA KAPALcBAcBA KEMBANGcMAcYA
cRAcLAcWAcSA SAGAdSAPAcSAcHAb* REREKANbVOWEL * TEDUNGdULUdULU SARIdSUKUdSUKU ILUTdRA REPA
eREPA TEDUNGdLA LENGAeLENGA TEDUNGdTALINGdTALING REPAeTEDUNGeREPA TEDUNGdPEPETdPEPET TEDUNG
bADEG ADEGb! KAF SASAKcKHOT SASAKcTZIR SASAKcEF SASAKcVE SASAKcZAL SASAKcASYURA SASAK
cARCHAIC JNYA"⟩,
  ⟨0x1b50, "aBALINESE DIGIT ZEROcONEcTWOc|cFOURcFIVEcSIXcSEVENcEIGHTcNINEbPANTIbPAMADAbWINDU
bCARIK PAMUNGKAHcSIKIcPARERENbPAMENENGbMUSICAL n DONGdDENGdDUNGdDANGdDANG SURANGdDINGdDAENGdDEUNG
dDAINGdDANG GEDEdCOMBINING TEGEHeENDEPeKEMPULeKEMPLIeJEGOGANeKEMPUL $ JEGOGANeKEMPLI $ JEGOGAN
eBENDEeGONGdRIGHT-HAND OPEN DUGfDAGeCLOSED TUKfTAKdLEFT-HAND OPEN PANGfPUNGeCLOSED PLAKfPLUK
eOPEN PINGbPANTI LANTANGbPAMADA LANTANG"⟩,
  ⟨0x1b80, "aSUNDANESE * PANYECEKcPANGLAYARcPANGWISADb! AcIcUcAEcOcEcEUcKAcQAcGAcNGAcCAcJAcZAcNYA
cTAcDAcNAcPAcFAcVAcBAcMAcYAcRAcLAcWAcSAcXAcHAbCONSONANT * PAMINGKALdPANYAKRAdPANYIKU
bVOWEL * PANGHULUdPANYUKUdPANAELAENGdPANOLONGdPAMEPETdPANEULEUNGb* PAMAAEHcVIRAMA
bCONSONANT * PASANGAN MAeWAb! KHAcSYAbDIGIT ZEROcONEcTWOc|cFOURcFIVEcSIXcSEVENcEIGHTcNINE
bAVAGRAHAb! REUcLEUcBHAc= KdMaBATAK ! AcSIMALUNGUN AcHAcSIMALUNGUN HAcMANDAILING HAcBAcKARO BAcPA
cSIMALUNGUN PAcNAcMANDAILING NAcWAcSIMALUNGUN WAcPAKPAK WAcGAcSIMALUNGUN GAcJAcDAcRA
cSIMALUNGUN RAcMAcSIMALUNGUN MAcSOUTHERN TAcNORTHERN TAcSAcSIMALUNGUN SAcMANDAILING SAcYA
cSIMALUNGUN YAcNGAcLAcSIMALUNGUN LAcNYAcCAcNDAcMBAcIcUb* TOMPIbVOWEL * EdPAKPAK EdEEdIdKARO IdO
dKARO OdUdU FOR SIMALUNGUN SAbCONSONANT * NGdHbPANGOLATbPANONGONAN"⟩,
  ⟨0x1bfc, "aBATAK n BINDU NA METEKdPINARBORASdJUDULdPANGOLATaLEPCHA ! KAcKLAcKHAcGAcGLAcNGAcCA
cCHAcJAcNYAcTAcTHAcDAcNAcPAcPLAcPHAcFAcFLAcBAcBLAcMAcMLAcTSAcTSHAcDZAcYAcRAcLAcHAcHLAcVAcSAcSHA
cWAcAbSUBJOINED ! YAdRAbVOWEL * AAdIdOdOOdUdUUdEbCONSONANT * KdMdLdNdPdRdTdNYIN-DOdKANGb* RAN
cNUKTA"⟩,
  ⟨0x1c3b, "aLEPCHA PUNCTUATION TA-ROLcNYET THYOOM TA-ROLcCER-WAcTSHOOK CER-WAcTSHOOKbDIGIT ZERO
cONEcTWOc|cFOURcFIVEcSIXcSEVENcEIGHTcNINE"⟩,
  ⟨0x1c4d, "aLEPCHA ! TTAcTTHAcDDAaOL CHIKI DIGIT ZEROdONEdTWOd|dFOURdFIVEdSIXdSEVENdEIGHTdNINE
c! LAdATdAGdANGdALdLAAdAAKdAAJdAAMdAAWdLIdISdIHdINYdIRdLUdUCzdUNNdUYdLEdEPdEDDdENdERRdLOdOTTdOB
dOVdOHcMU TTUDDAGcGAAHLAA TTUDDAAGcMU-GAAHLAA TTUDDAAGcRELAAcPHAARKAAcAHADcPUNCTUATION MUCAAD
d: MUCAADaCYRILLIC & ! ROUNDED VEdLONG-LEGGED DEdNARROW OdWIDE ESdTALL TEdTHREE-LEGGED TE
dTALL HARD *eYATdUNBLENDED UK"⟩,
  ⟨0x1c90, "aGEORGIAN MTAVRULI % ! ANeBANeGANeDONeENeVINeZENeTANeINeKANeLASeMANeNAReONePAReZHAR
eRAEeSANeTAReUNePHAReKHAReGHANeQAReSHINeCHINeCANeJILeCILeCHAReXANeJHANeHAEeHEeHIEeWEeHAReHOEeFI
eYNeELIFIeTURNED GANeAIN"⟩,
  ⟨0x1cbd, "aGEORGIAN MTAVRULI % ! AENeHARD *eLABIAL *aSUNDANESE PUNCTUATION BINDU SURYAdPANGLONG
dPURNAMAdCAKRAdLEU SATANGAdKA SATANGAdDA SATANGAdBA SATANGA"⟩,
  ⟨0x1cd0, "aVEDIC TONE KARSHANAcSHARAcPRENKHAb* NIHSHVASAcYAJURVEDIC MIDLINE SVARITA
bTONE YAJURVEDIC AGGRAVATED INDEPENDENT SVARITAdINDEPENDENT SVARITAdKATHAKA INDEPENDENT SVARITA
cCANDRA <cYAJURVEDIC KATHAKA INDEPENDENT SVARITA SCHROEDERc: SVARITAcTRIPLE SVARITA
cKATHAKA ANUDATTAcDOT <cTWO DOTS <c| DOTS <cRIGVEDIC KASHMIRI INDEPENDENT SVARITA
cATHARVAVEDIC INDEPENDENT SVARITAb* VISARGA SVARITAdUDATTAcREVERSED VISARGA UDATTA
cVISARGA ANUDATTAcREVERSED VISARGA ANUDATTAcVISARGA UDATTA $ TAILdANUDATTA $ TAIL
cANUSVARA ANTARGOMUKHAdBAHIRGOMUKHAdVAMAGOMUKHAdVAMAGOMUKHA $ TAILcTIRYAKcHEXIFORM LONG ANUSVARA
cLONG ANUSVARAcRTHANG LONG ANUSVARAcANUSVARA UBHAYATO MUKHAcARDHAVISARGAcROTATED ARDHAVISARGA
bTONE CANDRA ,b* JIHVAMULIYAcUPADHMANIYAcATIKRAMAbTONE RING ,c: RING ,b* : ANUSVARA ANTARGOMUKHA"⟩,
  ⟨0x1d00, "aLATIN ! & % AeAEb& ! TURNED AEb! & % BARRED BeCzeETHeEb& ! TURNED OPEN EeIb! & % Jz
eL $ meMeREVERSED NeOeOPEN Ob& ! SIDEWAYS OeOPEN OeO $ mdTURNED OEb! & % OUb& ! TOP HALF O
dBOTTOM HALF Ob! & % PeREVERSED ReTURNED ReTzb& ! SIDEWAYS UeDIAERESIZED UeTURNED Mb! & % VzeZ
eEZHcVOICED LARYNGEAL SPIRANTcAINaGREEK ! & % GAMMAeLAMDAePIeRHOePSIaCYRILLIC ! & % EL
aMODIFIER ! % AdAEdBdBARRED BdDzdREVERSED EdGzzzzzzzdREVERSED NdOdOUdPdRdTzdWc& AdTURNED AdALPHA
dTURNED AEdBdDzdSCHWAdOPEN EdTURNED OPEN EdGdTURNED IdKdMdENGdOdOPEN OdTOP HALF OdBOTTOM HALF OdP
dTzdSIDEWAYS UdTURNED MdVdAINdBETAdGREEK GAMMAdDELTAdGREEK PHIdCHIaLATIN SUBSCRIPT & ! IeReUz
aGREEK SUBSCRIPT & ! BETAeGAMMAeRHOePHIeCHIaLATIN & ! UEdB $ s TILDEdD $ s TILDEdF $ s TILDE
dM $ s TILDEdN $ s TILDEdP $ s TILDEdR $ s TILDEfFISHHOOK > s TILDEdS $ s TILDEdT $ s TILDE
dZ $ s TILDEdTURNED GaMODIFIER ! CYRILLIC ENaLATIN & ! INSULAR GdTH $ STRIKETHROUGHc% ! I $ m
c! IOTA $ mdP $ mc% ! U $ mc! UPSILON $ mdB $ PALATAL HOOKdD $ PALATAL HOOKdF $ PALATAL HOOK
dG $ PALATAL HOOKdK $ PALATAL HOOKdL $ PALATAL HOOKdM $ PALATAL HOOKdN $ PALATAL HOOK
dP $ PALATAL HOOKdR $ PALATAL HOOKdS $ PALATAL HOOKdESH $ PALATAL HOOKdV $ PALATAL HOOK
dX $ PALATAL HOOKdZ $ PALATAL HOOKdA $ RETROFLEX HOOKdALPHA $ RETROFLEX HOOKdD $ HOOK > TAIL
dE $ RETROFLEX HOOKdOPEN E $ RETROFLEX HOOKdREVERSED OPEN E $ RETROFLEX HOOK
dSCHWA $ RETROFLEX HOOKdI $ RETROFLEX HOOKdOPEN O $ RETROFLEX HOOKdESH $ RETROFLEX HOOK
dU $ RETROFLEX HOOKdEZH $ RETROFLEX HOOKaMODIFIER ! & TURNED ALPHAdCdC $ CURLdETHdREVERSED OPEN E
dFdDOTLESS J $ mdSCRIPT GdTURNED HdI $ mdIOTAd% IeI $ mdJ $ CROSSED-TAILdL $ RETROFLEX HOOK
fPALATAL HOOKd% LdM $ HOOKdTURNED M $ LONG LEGdN $ ; HOOKfRETROFLEX HOOKd% NdBARRED OdPHI
dS $ HOOKdESHdT $ PALATAL HOOKdU BARdUPSILONd% UdV $ HOOKdTURNED VdZdZ $ RETROFLEX HOOKfCURLdEZH
dTHETAaCOMBINING DOTTED GRAVE ACCENTcACUTE ACCENTbSNAKE <bSUSPENSION rbMACRON-ACUTEbGRAVE-MACRON
bMACRON-GRAVEbACUTE-MACRONbGRAVE-ACUTE-GRAVEbACUTE-GRAVE-ACUTEbLATIN & ! R <bBREVE-MACRON
bMACRON-BREVEb: x ,bOGONEK ,bZIGZAG <bIS <bUR ,bUS ,bLATIN & ! FLATTENED OPEN A ,eAEeAOeAV
eC CEDILLAeINSULAR DeETHeGc! & % Gc& ! Kzc! & % Lzc& ! Nc! & % NfRc& ! R ROTUNDAeSeLONG SeZeALPHA
eBeBETAeSCHWAeFeL $ : s TILDEeO $ LIGHT CENTRALIZATION mePeESHeU $ LIGHT CENTRALIZATION meW
eA $ DIAERESISeO $ DIAERESISeU $ DIAERESISbUP TACK ,bKAVYKA , +d;bDOT , ;bWIDE INVERTED BRIDGE <
bDOT < ;bDELETION rb: INVERTED BREVE <bALMOST EQUAL TO <b; ARROWHEAD ,
b+ ARROWHEAD > DOWN ARROWHEAD <aLATIN % ! A $ RING <b& ! A $ RING <b% ! B $ DOT ,b& ! B $ DOT ,
b% ! B $ DOT <b& ! B $ DOT <b% ! B $ LINE <b& ! B $ LINE <b% ! C $ CEDILLA > ACUTE
b& ! C $ CEDILLA > ACUTEb% ! D $ DOT ,b& ! D $ DOT ,b% ! D $ DOT <b& ! D $ DOT <b% ! D $ LINE <
b& ! D $ LINE <b% ! D $ CEDILLAb& ! D $ CEDILLAb% ! D $ x <b& ! D $ x <b% ! E $ MACRON > GRAVE
b& ! E $ MACRON > GRAVEb% ! E $ MACRON > ACUTEb& ! E $ MACRON > ACUTEb% ! E $ x <b& ! E $ x <
b% ! E $ TILDE <b& ! E $ TILDE <b% ! E $ CEDILLA > BREVEb& ! E $ CEDILLA > BREVEb% ! F $ DOT ,
b& ! F $ DOT ,b% ! G $ MACRONb& ! G $ MACRONb% ! H $ DOT ,b& ! H $ DOT ,b% ! H $ DOT <
b& ! H $ DOT <b% ! H $ DIAERESISb& ! H $ DIAERESISb% ! H $ CEDILLAb& ! H $ CEDILLA
b% ! H $ BREVE <b& ! H $ BREVE <b% ! I $ TILDE <b& ! I $ TILDE <b% ! I $ DIAERESIS > ACUTE
b& ! I $ DIAERESIS > ACUTEb% ! K $ ACUTEb& ! K $ ACUTEb% ! K $ DOT <b& ! K $ DOT <b% ! K $ LINE <
b& ! K $ LINE <b% ! L $ DOT <b& ! L $ DOT <b% ! L $ DOT < > MACRONb& ! L $ DOT < > MACRON
b% ! L $ LINE <b& ! L $ LINE <b% ! L $ x <b& ! L $ x <b% ! M $ ACUTEb& ! M $ ACUTEb% ! M $ DOT ,
b& ! M $ DOT ,b% ! M $ DOT <b& ! M $ DOT <b% ! N $ DOT ,b& ! N $ DOT ,b% ! N $ DOT <
b& ! N $ DOT <b% ! N $ LINE <b& ! N $ LINE <b% ! N $ x <b& ! N $ x <b% ! O $ TILDE > ACUTE
b& ! O $ TILDE > ACUTEb% ! O $ TILDE > DIAERESISb& ! O $ TILDE > DIAERESISb% ! O $ MACRON > GRAVE
b& ! O $ MACRON > GRAVEb% ! O $ MACRON > ACUTEb& ! O $ MACRON > ACUTEb% ! P $ ACUTEb& ! P $ ACUTE
b% ! P $ DOT ,b& ! P $ DOT ,b% ! R $ DOT ,b& ! R $ DOT ,b% ! R $ DOT <b& ! R $ DOT <
b% ! R $ DOT < > MACRONb& ! R $ DOT < > MACRONb% ! R $ LINE <b& ! R $ LINE <b% ! S $ DOT ,
b& ! S $ DOT ,b% ! S $ DOT <b& ! S $ DOT <b% ! S $ ACUTE > DOT ,b& ! S $ ACUTE > DOT ,
b% ! S $ CARON > DOT ,b& ! S $ CARON > DOT ,b% ! S $ DOT < > DOT ,b& ! S $ DOT < > DOT ,
b% ! T $ DOT ,b& ! T $ DOT ,b% ! T $ DOT <b& ! T $ DOT <b% ! T $ LINE <b& ! T $ LINE <
b% ! T $ x <b& ! T $ x <b% ! U $ DIAERESIS <b& ! U $ DIAERESIS <b% ! U $ TILDE <b& ! U $ TILDE <
b% ! U $ x <b& ! U $ x <b% ! U $ TILDE > ACUTEb& ! U $ TILDE > ACUTEb% ! U $ MACRON > DIAERESIS
b& ! U $ MACRON > DIAERESISb% ! V $ TILDEb& ! V $ TILDEb% ! V $ DOT <b& ! V $ DOT <b% ! W $ GRAVE
b& ! W $ GRAVEb% ! W $ ACUTEb& ! W $ ACUTEb% ! W $ DIAERESISb& ! W $ DIAERESISb% ! W $ DOT ,
b& ! W $ DOT ,b% ! W $ DOT <b& ! W $ DOT <b% ! X $ DOT ,b& ! X $ DOT ,b% ! X $ DIAERESIS
b& ! X $ DIAERESISb% ! Y $ DOT ,b& ! Y $ DOT ,b% ! Z $ xb& ! Z $ xb% ! Z $ DOT <b& ! Z $ DOT <
b% ! Z $ LINE <b& ! Z $ LINE <dH $ LINE <dT $ DIAERESISdW $ RING ,dY $ RING ,dA $ + HALF RING
dLONG S $ DOT ,gDIAGONAL mgHIGH mb% ! SHARP Sb& ! DELTAb% ! A $ DOT <b& ! A $ DOT <
b% ! A $ HOOK ,b& ! A $ HOOK ,b% ! A $ x > ACUTEb& ! A $ x > ACUTEb% ! A $ x > GRAVE
b& ! A $ x > GRAVEb% ! A $ x > HOOK ,b& ! A $ x > HOOK ,b% ! A $ x > TILDEb& ! A $ x > TILDE
b% ! A $ x > DOT <b& ! A $ x > DOT <b% ! A $ BREVE > ACUTEb& ! A $ BREVE > ACUTE
b% ! A $ BREVE > GRAVEb& ! A $ BREVE > GRAVEb% ! A $ BREVE > HOOK ,b& ! A $ BREVE > HOOK ,
b% ! A $ BREVE > TILDEb& ! A $ BREVE > TILDEb% ! A $ BREVE > DOT <b& ! A $ BREVE > DOT <
b% ! E $ DOT <b& ! E $ DOT <b% ! E $ HOOK ,b& ! E $ HOOK ,b% ! E $ TILDEb& ! E $ TILDE
b% ! E $ x > ACUTEb& ! E $ x > ACUTEb% ! E $ x > GRAVEb& ! E $ x > GRAVEb% ! E $ x > HOOK ,
b& ! E $ x > HOOK ,b% ! E $ x > TILDEb& ! E $ x > TILDEb% ! E $ x > DOT <b& ! E $ x > DOT <
b% ! I $ HOOK ,b& ! I $ HOOK ,b% ! I $ DOT <b& ! I $ DOT <b% ! O $ DOT <b& ! O $ DOT <
b% ! O $ HOOK ,b& ! O $ HOOK ,b% ! O $ x > ACUTEb& ! O $ x > ACUTEb% ! O $ x > GRAVE
b& ! O $ x > GRAVEb% ! O $ x > HOOK ,b& ! O $ x > HOOK ,b% ! O $ x > TILDEb& ! O $ x > TILDE
b% ! O $ x > DOT <b& ! O $ x > DOT <b% ! O $ HORN > ACUTEb& ! O $ HORN > ACUTE
b% ! O $ HORN > GRAVEb& ! O $ HORN > GRAVEb% ! O $ HORN > HOOK ,b& ! O $ HORN > HOOK ,
b% ! O $ HORN > TILDEb& ! O $ HORN > TILDEb% ! O $ HORN > DOT <b& ! O $ HORN > DOT <
b% ! U $ DOT <b& ! U $ DOT <b% ! U $ HOOK ,b& ! U $ HOOK ,b% ! U $ HORN > ACUTE
b& ! U $ HORN > ACUTEb% ! U $ HORN > GRAVEb& ! U $ HORN > GRAVEb% ! U $ HORN > HOOK ,
b& ! U $ HORN > HOOK ,b% ! U $ HORN > TILDEb& ! U $ HORN > TILDEb% ! U $ HORN > DOT <
b& ! U $ HORN > DOT <b% ! Y $ GRAVEb& ! Y $ GRAVEb% ! Y $ DOT <b& ! Y $ DOT <b% ! Y $ HOOK ,
b& ! Y $ HOOK ,b% ! Y $ TILDEb& ! Y $ TILDEb% ! MIDDLE-WELSH LLb& ! MIDDLE-WELSH LL
b% ! MIDDLE-WELSH Vb& ! MIDDLE-WELSH Vb% ! Y $ LOOPb& ! Y $ LOOPaGREEK & ! ALPHA $ PSILIfDASIA
fPSILI > VARIAfDASIA > VARIAfPSILI > OXIAfDASIA > OXIAfPSILI > PERISPOMENIfDASIA > PERISPOMENI
b% ! ALPHA $ PSILIfDASIAfPSILI > VARIAfDASIA > VARIAfPSILI > OXIAfDASIA > OXIA
fPSILI > PERISPOMENIfDASIA > PERISPOMENIb& ! EPSILON $ PSILIfDASIAfPSILI > VARIAfDASIA > VARIA
fPSILI > OXIAfDASIA > OXIA"⟩,
  ⟨0x1f18, "aGREEK % ! EPSILON $ PSILIfDASIAfPSILI > VARIAfDASIA > VARIAfPSILI > OXIA
fDASIA > OXIA"⟩,
  ⟨0x1f20, "aGREEK & ! ETA $ PSILIfDASIAfPSILI > VARIAfDASIA > VARIAfPSILI > OXIAfDASIA > OXIA
fPSILI > PERISPOMENIfDASIA > PERISPOMENIb% ! ETA $ PSILIfDASIAfPSILI > VARIAfDASIA > VARIA
fPSILI > OXIAfDASIA > OXIAfPSILI > PERISPOMENIfDASIA > PERISPOMENIb& ! IOTA $ PSILIfDASIA
fPSILI > VARIAfDASIA > VARIAfPSILI > OXIAfDASIA > OXIAfPSILI > PERISPOMENIfDASIA > PERISPOMENI
b% ! IOTA $ PSILIfDASIAfPSILI > VARIAfDASIA > VARIAfPSILI > OXIAfDASIA > OXIAfPSILI > PERISPOMENI
fDASIA > PERISPOMENIb& ! OMICRON $ PSILIfDASIAfPSILI > VARIAfDASIA > VARIAfPSILI > OXIA
fDASIA > OXIA"⟩,
  ⟨0x1f48, "aGREEK % ! OMICRON $ PSILIfDASIAfPSILI > VARIAfDASIA > VARIAfPSILI > OXIA
fDASIA > OXIA"⟩,
  ⟨0x1f50, "aGREEK & ! UPSILON $ PSILIfDASIAfPSILI > VARIAfDASIA > VARIAfPSILI > OXIA
fDASIA > OXIAfPSILI > PERISPOMENIfDASIA > PERISPOMENI"⟩,
  ⟨0x1f59, "aGREEK % ! UPSILON $ DASIA"⟩,
  ⟨0x1f5b, "aGREEK % ! UPSILON $ DASIA > VARIA"⟩,
  ⟨0x1f5d, "aGREEK % ! UPSILON $ DASIA > OXIA"⟩,
  ⟨0x1f5f, "aGREEK % ! UPSILON $ DASIA > PERISPOMENIb& ! OMEGA $ PSILIfDASIAfPSILI > VARIA
fDASIA > VARIAfPSILI > OXIAfDASIA > OXIAfPSILI > PERISPOMENIfDASIA > PERISPOMENI
b% ! OMEGA $ PSILIfDASIAfPSILI > VARIAfDASIA > VARIAfPSILI > OXIAfDASIA > OXIA
fPSILI > PERISPOMENIfDASIA > PERISPOMENIb& ! ALPHA $ VARIAfOXIAdEPSILON $ VARIAfOXIAdETA $ VARIA
fOXIAdIOTA $ VARIAfOXIAdOMICRON $ VARIAfOXIAdUPSILON $ VARIAfOXIAdOMEGA $ VARIAfOXIA"⟩,
  ⟨0x1f80, "aGREEK & ! ALPHA $ PSILI > YPOGEGRAMMENIfDASIA > YPOGEGRAMMENI
fPSILI > VARIA > YPOGEGRAMMENIfDASIA > VARIA > YPOGEGRAMMENIfPSILI > OXIA > YPOGEGRAMMENI
fDASIA > OXIA > YPOGEGRAMMENIfPSILI > PERISPOMENI > YPOGEGRAMMENI
fDASIA > PERISPOMENI > YPOGEGRAMMENIb% ! ALPHA $ PSILI > PROSGEGRAMMENIfDASIA > PROSGEGRAMMENI
fPSILI > VARIA > PROSGEGRAMMENIfDASIA > VARIA > PROSGEGRAMMENIfPSILI > OXIA > PROSGEGRAMMENI
fDASIA > OXIA > PROSGEGRAMMENIfPSILI > PERISPOMENI > PROSGEGRAMMENI
fDASIA > PERISPOMENI > PROSGEGRAMMENIb& ! ETA $ PSILI > YPOGEGRAMMENIfDASIA > YPOGEGRAMMENI
fPSILI > VARIA > YPOGEGRAMMENIfDASIA > VARIA > YPOGEGRAMMENIfPSILI > OXIA > YPOGEGRAMMENI
fDASIA > OXIA > YPOGEGRAMMENIfPSILI > PERISPOMENI > YPOGEGRAMMENI
fDASIA > PERISPOMENI > YPOGEGRAMMENIb% ! ETA $ PSILI > PROSGEGRAMMENIfDASIA > PROSGEGRAMMENI
fPSILI > VARIA > PROSGEGRAMMENIfDASIA > VARIA > PROSGEGRAMMENIfPSILI > OXIA > PROSGEGRAMMENI
fDASIA > OXIA > PROSGEGRAMMENIfPSILI > PERISPOMENI > PROSGEGRAMMENI
fDASIA > PERISPOMENI > PROSGEGRAMMENIb& ! OMEGA $ PSILI > YPOGEGRAMMENIfDASIA > YPOGEGRAMMENI
fPSILI > VARIA > YPOGEGRAMMENIfDASIA > VARIA > YPOGEGRAMMENIfPSILI > OXIA > YPOGEGRAMMENI
fDASIA > OXIA > YPOGEGRAMMENIfPSILI > PERISPOMENI > YPOGEGRAMMENI
fDASIA > PERISPOMENI > YPOGEGRAMMENIb% ! OMEGA $ PSILI > PROSGEGRAMMENIfDASIA > PROSGEGRAMMENI
fPSILI > VARIA > PROSGEGRAMMENIfDASIA > VARIA > PROSGEGRAMMENIfPSILI > OXIA > PROSGEGRAMMENI
fDASIA > OXIA > PROSGEGRAMMENIfPSILI > PERISPOMENI > PROSGEGRAMMENI
fDASIA > PERISPOMENI > PROSGEGRAMMENIb& ! ALPHA $ VRACHYfMACRONfVARIA > YPOGEGRAMMENI
fYPOGEGRAMMENIfOXIA > YPOGEGRAMMENI"⟩,
  ⟨0x1fb6, "aGREEK & ! ALPHA $ PERISPOMENIfPERISPOMENI > YPOGEGRAMMENIb% ! ALPHA $ VRACHYfMACRON
fVARIAfOXIAfPROSGEGRAMMENIbKORONISbPROSGEGRAMMENIbPSILIbPERISPOMENIbDIALYTIKA > PERISPOMENI
b& ! ETA $ VARIA > YPOGEGRAMMENIfYPOGEGRAMMENIfOXIA > YPOGEGRAMMENI"⟩,
  ⟨0x1fc6, "aGREEK & ! ETA $ PERISPOMENIfPERISPOMENI > YPOGEGRAMMENIb% ! EPSILON $ VARIAfOXIA
dETA $ VARIAfOXIAfPROSGEGRAMMENIbPSILI > VARIAdOXIAdPERISPOMENIb& ! IOTA $ VRACHYfMACRON
fDIALYTIKA > VARIAhOXIA"⟩,
  ⟨0x1fd6, "aGREEK & ! IOTA $ PERISPOMENIfDIALYTIKA > PERISPOMENIb% ! IOTA $ VRACHYfMACRONfVARIA
fOXIA"⟩,
  ⟨0x1fdd, "aGREEK DASIA > VARIAdOXIAdPERISPOMENIb& ! UPSILON $ VRACHYfMACRONfDIALYTIKA > VARIA
hOXIAdRHO $ PSILIfDASIAdUPSILON $ PERISPOMENIfDIALYTIKA > PERISPOMENIb% ! UPSILON $ VRACHYfMACRON
fVARIAfOXIAdRHO $ DASIAbDIALYTIKA > VARIAdOXIAbVARIA"⟩,
  ⟨0x1ff2, "aGREEK & ! OMEGA $ VARIA > YPOGEGRAMMENIfYPOGEGRAMMENIfOXIA > YPOGEGRAMMENI"⟩,
  ⟨0x1ff6, "aGREEK & ! OMEGA $ PERISPOMENIfPERISPOMENI > YPOGEGRAMMENIb% ! OMICRON $ VARIAfOXIA
dOMEGA $ VARIAfOXIAfPROSGEGRAMMENIbOXIAbDASIA"⟩]

end CallTree.Text.CharName
