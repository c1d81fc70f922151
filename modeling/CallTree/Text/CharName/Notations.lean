import CallTree.Text.CharName.Packed

/-!
# Names of characters: notations

The characters from U+14400 on and below U+1E000 whose names follow no rule: further old scripts,
notations for music, signs and shorthand, and the letters of mathematics.
-/

namespace CallTree.Text.CharName

/-- The names of these characters. -/
def notations : List Run := [
  ⟨0x14400, "aANATOLIAN HIEROGLYPH A001zzzzzzzzzcA010AcA011zzzzzzzzzzzzzzzcA026AcA027zzzzzzzzzzzz
cA039AcA040zcA041AcA042zzzcA045AcA046cA046AzcA047zzzzzzzzzzzzzzzzzzzcA066AzzcA067zzzzzzzzzzzzzzzz
zzzzzzzzzzzzzzcA097AcA098cA098AcA099zcA100AcA101cA101AcA102cA102AcA103zcA104AzzcA105cA105AzcA106z
cA107AzzcA108zzcA110AzcA111zzzzcA115AcA116zzzzzzzzzcA125AcA126zzzzzzzzzcA135AcA136zzzzzzzzzzzzzzz
zzzzzzzzzzzzzzzzzzzzzzzzzzzzzzzzzzzzzzzzzzzzzzzzzzzcA202AzcA203zzzzcA207AcA208zcA209AcA210zzzzz
cA215AcA216cA216AcA217zzzzzzzzzzcA227AcA228zzzzzzzzzzzzzzzzzzzzzzzzzzzzzzzzzzzzzzzcA267AcA268zzzz
zzzzzzzzzzzzzzzzzcA289AcA290zzzzcA294AcA295zzzzcA299AcA300zzzzzzzzzcA309AcA310zzzzzzzzzzzzzzzzzzz
cA329AcA330zcA332AzzcA333zzzcA336AzzcA337zzzzzzzzzzzzzzzzzzzzzzcA359AcA360zzzzcA364AcA365zzz
cA368AcA369zzcA371AcA372zzzzzzzzzcA381AcA382cA383 RA OR RIcA383AcA384zzcA386AcA387zzzzz
cA393 EIGHTcA394zzzzzzzzzzzzzzzcA410 BEGIN LOGOGRAM rcA410A END LOGOGRAM rcA411zzzzzzzzzzzzzzzzzz
zzzzzzzzzzzzzzzzzzzzzcA450AcA451zzzzzzcA457AcA458zzzzzzzzzzzzzzzzzzzzzzzzzzzzzzzzzzzzzzzcA501zzzz
zzzzzzzzzzzzzzzzzzzzzzzzz"⟩,
  ⟨0x16800, "aBAMUM ! PHASE-A NGKUE MFONdGBIEE FONdPON MFON PIPAEMGBIEEfPIPAEMBAdNAA MFON
dSHUENSHUETdTITA MFONdNZA MFONdSHINDA PA NJIdPON PA NJI PIPAEMGBIEEgPIPAEMBAdMAEMBGBIEEdTU MAEMBA
dNGANGUdMAEMVEUXdMANSUAEdMVEUAENGAMdSEUNYAMdNTOQPENdKEUKEUTNDAdNKINDIdSUUdNGKUENZEUMdLAPAQ
dLET KUTdNTAP MFAAdMAEKEUPdPASHAEdGHEUAERAEdPAMSHAEdMON NGGEUAETdNZUN MEUTdU YUQ NAEdGHEUAEGHEUAE
dNTAP NTAAdSISAdMGBASAdMEUNJOMNDEUQdMOOMPUQdKAFAdPA LEERAEWAdNDA LEERAEWAdPETdMAEMKPENdNIKAdPUP
dTUAEPdLUAEPdSONJAMdTEUTEUWENdMAENYIdKETdNDAANGGEUAETdKUOQdMOOMEUTdSHUMdLOMMAEdFIRIdROMdKPOQdSOQ
dMAP PIEETdSHIRAEdNTAPdSHOQ NSHUT YUMdNYIT MONGKEUAEQdPAARAEdNKAARAEdUNKNOWNdNGGENdMAESIdNJAM
dMBANYIdNYETdTEUAENdSOTdPAAMdNSHIEEdMAEMdNYIdKAQdNSHAdVEEdLUdNENdNAQdMBAQcPHASE-B NSHUET
dTU MAEMGBIEEdSIEEdSET TUdLOM NTEUMdMBA MAELEEdKIEEMdYEURAEdMBAARAEdKAMdPEESHIdYAFU LEERAEWA
dLAM NSHUT NYAMdNTIEE SHEUOQdNDU NJAAdGHEUGHEUAEMdPITdTU NSIEEdSHET NJAQdSHEUAEQTUdMFON TEUAEQ
dMBIT MBAAKETdNYI NTEUMdKEUPUQdGHEUGHENdKEUYEUXdLAANAEdPARUMdVEUMdNGKINDI MVOPdNGGEU MBUdWUAET
dSAKEUAEdTAAMdMEUQdNGGUOQdNGGUOQ LARGEdMFIYAQdSUEdMBEURIdMONTIEENdNYAEMAEdPUNGAAMdMEUT NGGEET
dFEUXdMBUOQdFEEdKEUAEMdMA NJEUAENAeNJUQAdLETdNGGAAMdNSENdMAdKIQdNGOMcPHASE-C NGKUE MAEMBAdNZAdYUM
dWANGKUOQdNGGENdNDEUAEREEdNGKAQdGHARAEdMBEEKEETdGBAYIdNYIR MKPARAQ MEUNdNTU MBITdMBEUMdPIRIEEN
dNDOMBUdMBAA CABBAGE-TREEdKEUSHEUAEPdGHAPdKEUKAQdYU MUOMAEdNZEUMdMBUEdNSEUAENdMBITdYEUQdKPARAQ
dKAAdSEUXdNDIDAdTAASHAEdNJUEQdTITA YUEdSUAETdNGGUAEN NYAMdVEUXdNANSANAQdMA KEUAERIdNTAAdNGGUON
dLAPdMBIRIEENdMGBASAQdNTEUNGBAdTEUTEUXdNGGUMdFUEdNDEUTdNSAdNSHAQdBUNGdVEUAEPENdMBERAEdRUdNJAEM
dLAMdTITUAEPdNSUOT NGOMdNJEEEEdKETdNGGUdMAESIdMBUAEMdLUdKUTdNJAMdNGOMdWUPdNGGUEETdNSOMdNTEN
dKUOP NKAARAEdNSUNdNDAMdMA NSIEEdYAAdNDAPdSHUEQdSETFONdMBIdMAEMBAdMBANYIdKEUSEUXdMBEUXdKEUM
dMBAA PICKETdYUWOQdNJEUXdMIEEdMUAEdSHIQdKEN LAWeFATIGUEdNGAQdNAQdLIQdPINdPENdTETcPHASE-D MBUOdWAP
dNJIdMFONdNJIEEdLIEEdNJEUTdNSHEEdNGGAAMAEdNYAMdWUAENdNGKUNdSHEEdNGKAPdKEUAETMEUNdTEUTdSHEUAEdNJAP
dSUEdKETdYAEMMAEdKUOMdSAPdMFEUTdNDEUXdMALEERIdMEUTdSEUAEQdYENdNJEUAEMdKEUOT MBUAEdNGKEURIdTUdGHAA
dNGKYEEdFEUFEUAETdNDEEdMGBOFUMdLEUAEPdNDONdMONIdMGBEUNdPUUTdMGBIEEdMFOdLUMdNSIEEPdMBAAdKWAETdNYET
dTEUAENdSOTdYUWOQdKEUMdRAEMdTEEEEdNGKEUAEQdMFEUAEdNSIEETdKEUPdPIPdPEUTAEdNYUEdLETdNGGAAMdMFIEE
dNGGWAENdYUOMdPAPdYUOPdNDAMdNTEUMdSUAEdKUNdNGGEUXdNGKIEEdTUOTdMEUNdKUQdNSUMdTEUNdMAENJETdNGGAP
dLEUMdNGGUOMdNSHUTdNJUEQdGHEUAEdKUdREN OLDdTAEdTOQdNYIdRIIdLEEEEdMEEEEdMdSUUdMUdSHIIdSHEUXdKYEE
dNUdSHUdNTEEdPEEdNIdSHOQdPUQdMVOPdLOQdREN MUCHdTIdNTUUdMBAA SEVENdSAQdFAAcPHASE-E NDAPdTOONdMBEUM
dLAPdVOMdLOONdPAAdSOMdRAQdNSHUOPdNDUNdPUAEdTAMdNGKAdKPEUXdWUOdSEEdNGGEUAETdPAAMdTOOdKUOPdLOM
dNSHIEEdNGOPdMAEMdNGKEUXdNGOQdNSHUEdRIMGBAdNJEUXdPEEMdSAAdNGGURAEdMGBAdGHEUXdNGKEUAEMdNJAEMLIdMAP
dLOOTdNGGEEEEdNDIQdTAEN NTEUMdSETdPUMdNDAA SOFTNESSdNGGUAESHAE NYAMdYIEEdGHEUNdTUAEdYEUAEdPO
dTUMAEdKEUAEdSUAENdTEUAEQdVEUAEdWEUXdLAAMdPUdTAAQdGHAAMAEdNGEUREUTdSHEUAEQdMGBENdMBEEdNZAQdNKOM
dGBETdTUMdKUETdYAPdNYI CLEAVERdYITdMFEUQdNDIAQdPIEEQdYUEQdLEUAEMdFUEdGBEUXdNGKUPdKETdMAEdNGKAAMI
dGHETdFAdNTUMdPEUTdYEUMdNGGEUAEdNYI BETWEENdNZUQdPOONdMIEEdFUETdNAEdMUAEdGHEUAEdFU IdMVIdPUAQ
dNGKUMdKUTdPIETdNTAPdYEUAETdNGGUPdPA PEOPLEdFU CALLdFOMdNJEEdAdTOQdOdIdLAQdPA PLURALdTAAdTAQ
dNDAA MY HOUSEdSHIQdYEUXdNGUAEdYUAENdYOQ SWIMMINGeCOVERdYUQdYUNdKEUXdPEUXdNJEE EPOCHdPUEdWUEdFEE
dVEEdLUdMIdREUXdRAEdNGUAETdNGAdSHOdSHOQdFU REMEDYdNAdPIdLOQdKOdMENdMAdMAQdTEUdKIdMONdTENdFAQdGHOM
cPHASE-F KAdUdKUdEEdREEdTAEdNYIdLAdRIIdRIEEdMEEEEdTAAdNDAAdNJAEMdMdSUUdSHIIdSIdSEUXdKYEEdKETdNUAE
dNUdNJUAEdYOQdSHUdYAdNSHAdPEUXdNTEEdWUEdPEEdRUdNIdREUXdKENdNGKWAENdNGGAdSHOdPUAEdFOMdWAdLIdLOQdKO
dMBENdRENdMAdMOdMBAAdTETdKPAdSAMBAdVUEQ"⟩,
  ⟨0x16a40, "aMRO ! TAcNGIcYOcMIMcBAcDAcAcPHIcKHAIcHAOcDAIcCHUcKEAAEcOLcMAEMcNINcPAcOOcOcROcSHI
cTHEAcEAcWAcEcKOcLANcLAcHAIcRIcTEK"⟩,
  ⟨0x16a60, "aMRO DIGIT ZEROcONEcTWOc|cFOURcFIVEcSIXcSEVENcEIGHTcNINE"⟩,
  ⟨0x16a6e, "aMRO DANDAb: DANDAaTANGSA ! OZcOCcOQcOXcAZcACcAQcAXcVZcVCcVQcVXcEZcECcEQcEXcIZcICcIQ
cIXcUZcUCcUQcUXcAWZcAWCcAWQcAWXcUIZcUICcUIQcUIXc= NGcLONG UEXcSHORT UEZdAWXcUECcUEZcUEQcUEXcUIUZ
cUIUCcUIUQcUIUXcMZcMCcMQcMXcKAcKHAcGAcNGAcSAcYAcWAcPAcNYAcPHAcBAcMAcNAcHAcLAcHTAcTAcDAcRAcNHAcSHA
cCAcTSAcGHAcHTTAcTHAcXAcFAcDHAcCHAcZA"⟩,
  ⟨0x16ac0, "aTANGSA DIGIT ZEROcONEcTWOc|cFOURcFIVEcSIXcSEVENcEIGHTcNINE"⟩,
  ⟨0x16ad0, "aBASSA VAH ! ENNIdKAdSEdFAdMBEdYIEdGAHdDHIIdKPAHdJOdHWAHdWAdZOdGBUdDOdCEdUWUdTOdBA
dVUdYEINdPAdWADDAdAdOdOOdUdEEdEdI"⟩,
  ⟨0x16af0, "aBASSA VAH COMBINING HIGH TONEdLOW TONEdMID TONEdLOW-MID TONEdHIGH-LOW TONE
cFULL STOP"⟩,
  ⟨0x16b00, "aPAHAWH HMONG VOWEL KEEBdKEEVdKIBdKIVdKAUBdKAUVdKUBdKUVdKEBdKEVdKAIBdKAIVdKOOBdKOOV
dKAWBdKAWVdKUABdKUAVdKOBdKOVdKIABdKIAVdKABdKAVdKWBdKWVdKAABdKAAVcCONSONANT VAUdNTSAUdLAUdHAUdNLAU
dRAUdNKAUdQHAUdYAUdHLAUdMAUdCHAUdNCHAUdHNAUdPLHAUdNTHAUdNAUdAUdXAUdCAUcr CIM TUBeSOeKESeKHAVeSUAM
eHOMeTAUMc* VOS THOMeTSHAB CEEBdCIM CHEEMdVOS THIABeFEEMdXYEEM NTXIVeRHOeTOVeFAIBdVOS SEEV
dMEEJ SUABdVOS NRUAdIB YAMdXAUSdCIM TSOV ROG"⟩,
  ⟨0x16b50, "aPAHAWH HMONG DIGIT ZEROdONEdTWOd|dFOURdFIVEdSIXdSEVENdEIGHTdNINE"⟩,
  ⟨0x16b5b, "aPAHAWH HMONG NUMBER TENSdHUNDREDSdTEN THOUSANDSdMILLIONSdt MILLIONSdTEN BILLIONS
dTRILLIONS"⟩,
  ⟨0x16b63, "aPAHAWH HMONG * VOS LUBdXYOOdHLIdTHIRD-STAGE HLIdZWJ THAJdHNUBdNQIGdXIABdNTUJdAV
dTXHEEJ CEEVdMEEJ TSEEBdTAUdLOSdMUSdCIM HAIS LUS NTOG NTOGeCUAM TSHOOJeTXWVeTXWV CHWVePUB DAWB
eNRES TOS"⟩,
  ⟨0x16b7d, "aPAHAWH HMONG CLAN * TSHEEJeYEEGeLISeLAUJeXYOOJeKOOeHAWJeMUASeTHOJeTSABePHABeKHAB
eHAMeVAJeFAJeYAJeTSWBeKWMeVWJ"⟩,
  ⟨0x16e40, "aMEDEFAIDRIN % ! MdSdVzdATIUdZdKPdPdTdGdFdIdKdAdJdEdBzdUdYUdLdQdHPdNYdXdDdOEdNdRdO
dAIdYb& ! MdSdVzdATIUdZdKPdPdTdGdFdIdKdAdJdEdBzdUdYUdLdQdHPdNYdXdDdOEdNdRdOdAIdYbDIGIT ZEROcONE
cTWOc|cFOURcFIVEcSIXcSEVENcEIGHTcNINEbNUMBER TENcELEVENcTWELVEcTHIRTEENcFOURTEENcFIFTEENcSIXTEEN
cSEVENTEENcEIGHTEENcNINETEENbDIGIT ONE ALTERNATE (cTWO ALTERNATE (c| ALTERNATE (bCOMMAbFULL STOP
bn AIVAbEXCLAMATION OH"⟩,
  ⟨0x16f00, "aMIAO ! PAcBAcYI PAcPLAcMAcMHAcARCHAIC MAcFAcVAcVFAcTAcDAcYI TTAdTAcTTAcDDAcNAcNHA
cYI NNAcARCHAIC NAcNNAcNNHAcLAcLYAcLHAcLHYAcTLHAcDLHAcTLHYAcDLHYAcKAcGAcYI KAcQAcQGAcNGAcNGHA
cARCHAIC NGAcHAcXAcGHAcGHHAcTSSAcDZZAcNYAcNYHAcTSHAcDZHAcYI TSHAdDZHAcREFORMED TSHAcSHAcSSAcZHA
cZSHAcTSAcDZAcYI TSAcSAcZAcZSAcZZAcZZSAcARCHAIC ZZAcZZYAcZZSYAcWAcAHcHHAcBRIcSYIcDZYIcTEcTSEcRTE"⟩,
  ⟨0x16f4f, "aMIAO * CONSONANT MODIFIER BARb! NASALIZATIONb* ASPIRATIONcREFORMED VOICING
dASPIRATIONbVOWEL * AdAAdAHHdANdANGdOdOOdWOdWdEdENdENGdOEYdIdIAdIANdIANGdIOdIEdIIdIUdINGdUdUAdUAN
dUANGdUUdUEIdUNGdYdYIdAEdAEEdERRdROUNDED ERRdERdROUNDED ERdAIdEIdAUdOUdNdNGdUOGdYUIdOGdOERdVWdIG
dEAdIONGdUI"⟩,
  ⟨0x16f8f, "aMIAO TONE +cTOP +c,c<b! TONE-2zzzzzzcREFORMED TONE-1zdTONE-4zzdTONE-8"⟩,
  ⟨0x16fe0, "aTANGUT ITERATION raNUSHU ITERATION raOLD CHINESE HOOK rcITERATION r
aKHITAN & SCRIPT FILLER"⟩,
  ⟨0x16ff0, "aVIETNAMESE ALTERNATE READING r CAeNHAY"⟩,
  ⟨0x18800, "aTANGUT COMPONENT-001zzzzzzzzzzzzzzzzzzzzzzzzzzzzzzzzzzzzzzzzzzzzzzzzzzzzzzzzzzzzzzz
zzzzzzzzzzzzzzzzzzzzzzzzzzzzzzzzzzzzzzzzzzzzzzzzzzzzzzzzzzzzzzzzzzzzzzzzzzzzzzzzzzzzzzzzzzzzzzzzz
zzzzzzzzzzzzzzzzzzzzzzzzzzzzzzzzzzzzzzzzzzzzzzzzzzzzzzzzzzzzzzzzzzzzzzzzzzzzzzzzzzzzzzzzzzzzzzzzz
zzzzzzzzzzzzzzzzzzzzzzzzzzzzzzzzzzzzzzzzzzzzzzzzzzzzzzzzzzzzzzzzzzzzzzzzzzzzzzzzzzzzzzzzzzzzzzzzz
zzzzzzzzzzzzzzzzzzzzzzzzzzzzzzzzzzzzzzzzzzzzzzzzzzzzzzzzzzzzzzzzzzzzzzzzzzzzzzzzzzzzzzzzzzzzzzzzz
zzzzzzzzzzzzzzzzzzzzzzzzzzzzzzzzzzzzzzzzzzzzzzzzzzzzzzzzzzzzzzzzzzzzzzzzzzzzzzzzzzzzzzzzzzzzzzzzz
zzzzzzzzzzzzzzzzzzzzzzzzzzzzzzzzzzzzzzzzzzzzzzzzzzzzzzzzzzzzzzzzzzzzzzzzzzzzzzzzzzzzzzzzzzzzzzzzz
zzzzzzzzzzzzzzzzzzzzzzzzzzzzzzzzzzzzzzzzzzzzzzzzzzzzzzzzzzzzzzzzzzzzzzzzzzzzzzzzzzzzzzzzzzzzzzzzz
zzzzzzzzzzzzzzzzzzzzzzzzz"⟩,
  ⟨0x1aff0, "aKATAKANA ! MINNAN TONE-2zzz"⟩,
  ⟨0x1aff5, "aKATAKANA ! MINNAN TONE-7zdNASALIZED TONE-1zzzz"⟩,
  ⟨0x1affd, "aKATAKANA ! MINNAN NASALIZED TONE-7z"⟩,
  ⟨0x1b000, "aKATAKANA ! ARCHAIC EaHIRAGANA ! ARCHAIC YEaHENTAIGANA ! A-1zzcA-WOcI-1zzzcU-1zzzz
cE-2zzzzcO-1zzcKA-1zzzzzzzzcKA-10zcKA-KEcKI-1zzzzzzzcKU-1zzzzzzcKE-1zzzzzcKO-1zzcKO-KIcSA-1zzzzzz
zcSI-1zzzzzcSU-1zzzzzzzcSE-1zzzzcSO-1zzzzzzcTA-1zzzcTI-1zzzzzzcTU-1zzzcTU-TOcTE-1zzzzzzzzcTO-1zzz
zzcTO-RAcNA-1zzzzzzzzcNI-1zzzzzzcNI-TEcNU-1zzcNE-1zzzzzcNE-KOcNO-1zzzzcHA-1zzzzzzzzcHA-10zcHI-1zz
zzzzcHU-1zzcHE-1zzzzzzcHO-1zzzzzzzcMA-1zzzzzzcMI-1zzzzzzcMU-1zzzcME-1zcME-MAcMO-1zzzzzcYA-1zzzz
cYA-YOcYU-1zzzcYO-1zzzzzcRA-1zzzcRI-1zzzzzzcRU-1zzzzzcRE-1zzzcRO-1zzzzzcWA-1zzzzcWI-1zzzzcWE-1zzz
cWO-1zzzzzzcN-MU-MO-1zaHIRAGANA ! ARCHAIC WUaKATAKANA ! ARCHAIC YIdYEdWU"⟩,
  ⟨0x1b132, "aHIRAGANA ! & KO"⟩,
  ⟨0x1b150, "aHIRAGANA ! & WIdWEdWO"⟩,
  ⟨0x1b155, "aKATAKANA ! & KO"⟩,
  ⟨0x1b164, "aKATAKANA ! & WIdWEdWOdN"⟩,
  ⟨0x1bc00, "aDUPLOYAN ! HcXcPcTcFcKzcBcDcVcGcRcP NcD ScF NcK McR ScTHcSLOAN DHcDHcKKcSLOAN JcHL
cLHcRHcMzcJcScM NcN McJ McS JcM $ DOTcN $ DOTcJ $ DOTeDOTS INSIDE > ,cS $ DOTeDOT <cM ScN ScJ S
cS ScM N ScN M ScJ M ScS J ScJ S $ DOTdNdN ScS TdT RdPdP RcT SdR ScWcWHcW RcS NdMcK R ScG R ScS K
dK RcAcSLOAN OWcOAcOcAOUcIcEcIEcSHORT IcUIcEEcSLOAN EHcROMANIAN IcSLOAN EEcLONG IcYEcUcEUcXWcU N
cLONG UcROMANIAN UcUHcSLOAN UcOOHcOWcOUcWAcWOcWIcWEIcWOWcNASAL UdOdIdAcPERNIN ANdAMcSLOAN ENdAN
dONcVOCALIC M"⟩,
  ⟨0x1bc70, "aDUPLOYAN AFFIX ; p SECANTcMID p SECANTc+ p SECANTcLOW ? SECANTcMID ? SECANT
cHIGH ? SECANTcATTACHED SECANTdLEFT-TO-RIGHT SECANTdTANGENTdTAILdE HOOKdI HOOKdTANGENT HOOK"⟩,
  ⟨0x1bc80, "aDUPLOYAN AFFIX HIGH ACUTEdTIGHT ACUTEdGRAVEdLONG GRAVEdDOTdCIRCLEdLINEdWAVEd?"⟩,
  ⟨0x1bc90, "aDUPLOYAN AFFIX LOW ACUTEdTIGHT ACUTEdGRAVEdLONG GRAVEdDOTdCIRCLEdLINEdWAVEd?d)"⟩,
  ⟨0x1bc9c, "aDUPLOYAN * O $ CROSSbTHICK ! SELECTORb: rbPUNCTUATION CHINOOK FULL STOP
aSHORTHAND FORMAT ! OVERLAPcCONTINUING OVERLAPcDOWN STEPcUP STEP"⟩,
  ⟨0x1cf00, "aZNAMENNY COMBINING r GORAZDO NIZKO S KRYZHEM ON ;dNIZKO S KRYZHEM ON ;dTSATA ON ;
dGORAZDO NIZKO ON ;dNIZKO ON ;dSREDNE ON ;dMALO POVYSHE ON ;dPOVYSHE ON ;dVYSOKO ON ;
dMALO POVYSHE S KHOKHLOM ON ;dPOVYSHE S KHOKHLOM ON ;dVYSOKO S KHOKHLOM ON ;
dGORAZDO NIZKO S KRYZHEM ON +dNIZKO S KRYZHEM ON +dTSATA ON +dGORAZDO NIZKO ON +dNIZKO ON +
dSREDNE ON +dMALO POVYSHE ON +dPOVYSHE ON +dVYSOKO ON +dMALO POVYSHE S KHOKHLOM ON +
dPOVYSHE S KHOKHLOM ON +dVYSOKO S KHOKHLOM ON +dTSATA S KRYZHEMdMALO POVYSHE S KRYZHEM
dSTRANNO MALO POVYSHEdPOVYSHE S KRYZHEMeSTRANNOdVYSOKO S KRYZHEMdMALO POVYSHE STRANNO
dGORAZDO VYSOKOdZELOdONdRAVNOdTIKHAYAdBORZAYAdUDARKAdPODVERTKAdLOMKAdKUPNAYAdKACHKAdZEVOKdSKOBA
dRAZSEKAdKRYZH ON ;"⟩,
  ⟨0x1cf30, "aZNAMENNY COMBINING TONAL RANGE r MRACHNOfSVETLOfTRESVETLOcr ZADERZHKA
dDEMESTVENNY ZADERZHKAdOTSECHKAdPODCHASHIEdPODCHASHIE $ ? mdCHASHKAdCHASHKA POLNAYAdOBLACHKO
dSOROCHYA NOZHKAdTOCHKAdDVOETOCHIEcATTACHING ? OMETcr CURVED OMETdKRYZH
cLOWER TONAL RANGE INDICATORbPRIZNAK MODIFIER LEVEL-2zdDIRECTION FLIPdKRYZHdROG"⟩,
  ⟨0x1cf50, "aZNAMENNY NEUME KRYUKcKRYUK TIKHYcPARAKLITcDVA V CHELNUcKLYUCHcZANOZHEKcSTOPITSA
cSTOPITSA S OCHKOMcPEREVODKAcPEREVODKA NEPOSTOYANNAYAcSTOPITSA $ SOROCHYA NOZHKAcCHELYUSTKAcPALKA
cZAPYATAYAcGOLUBCHIK BORZYdTIKHYdMRACHNYdSVETLYdTRESVETLYcVRAKHIYA PROSTAYAdMRACHNAYAdSVETLAYA
dTRESVETLAYAdKLYUCHEVAYA PROSTAYAeMRACHNAYAeSVETLAYAeTRESVETLAYAc: ZAPYATAYAcREVERSED CHELYUSTKA
cDERBITSAcKHAMILOcCHASHKAcPODCHASHIEcSKAMEYTSA MRACHNAYAdSVETLAYAdTRESVETLAYAdTIKHAYA
cDEMESTVENNY KLYUCHcSKAMEYTSA KLYUCHEVAYA SVETLAYAdKLYUCHENEPOSTOYANNAYAdKLYUCHEVAYA TIKHAYA
dDVOECHELNAYA PROSTAYAeSVETLAYAeNEPOSTOYANNAYAeKLYUCHEVAYAcSLOZHITIEcSLOZHITIE S ZAPYATOY
dZAKRYTOEdS KRYZHEMcKRYZHcROGcFITAcKOBYLAcZMEYTSAcSTATYAcSTATYA S ZAPYATOYeKRYZHEM
eZAPYATOY I KRYZHEMeKRYZHEM I ZAPYATOYdZAKRYTAYAdZAKRYTAYA S ZAPYATOYdS ROGOMeDVUMYA ZAPYATYMI
eZAPYATOY I PODCHASHIEMcPOLKULIZMYcSTATYA NEPOSTOYANNAYAcSTRELA PROSTAYAdMRACHNOTIKHAYA
dKRYZHEVAYAdPOLUPOVODNAYAdPOVODNAYAdNEPOSTOYANNAYAdKLYUCHEPOVODNAYAdKLYUCHENEPOSTOYANNAYA
dTIKHAYA PUTNAYAdDVOECHELNAYAdDVOECHELNOKRYZHEVAYAdDVOECHELNOPOVODNAYAdDVOECHELNAYA KLYUCHEVAYA
dDVOECHELNOPOVODNAYA KLYUCHEVAYAdGROMNAYA $ SINGLE ZAPYATAYAdGROMOPOVODNAYA $ SINGLE ZAPYATAYA
dGROMNAYAdGROMOPOVODNAYAdGROMOPOVODNAYA $ : ZAPYATAYAdGROMOKRYZHEVAYAdGROMOKRYZHEVAYA POVODNAYA
cMECHIKcMECHIK POVODNYdKLYUCHEVOYdKLYUCHEPOVODNYdKLYUCHENEPOSTOYANNYcSTRELA TRYASOGLASNAYA
dTRYASOPOVODNAYAdTRYASOSTRELNAYAcOSOKAcOSOKA SVETLAYAdTRESVETLAYAdKRYUKOVAYA SVETLAYA
dKLYUCHEVAYA SVETLAYAeNEPOSTOYANNAYAcSTRELA KRYUKOVAYAdKRYUKOVAYA POVODNAYA
eGROMNAYA $ SINGLE ZAPYATAYAeGROMOPOVODNAYA $ SINGLE ZAPYATAYAeGROMNAYAeGROMOPOVODNAYA
eGROMOPOVODNAYA $ : ZAPYATAYAeGROMOKRYZHEVAYAeGROMOKRYZHEVAYA POVODNAYAeTRYASKAcKUFISMAcOBLAKO
cDUDAcNEMKAcPAUK"⟩,
  ⟨0x1d000, "aBYZANTINE MUSICAL n PSILIdDASEIAdPERISPOMENIdOXEIA EKFONITIKONeDIPLI
dVAREIA EKFONITIKONeDIPLIdKATHISTIdSYRMATIKIdPARAKLITIKIdYPOKRISISdYPOKRISIS DIPLIdKREMASTI
dAPESO EKFONITIKONdEXO EKFONITIKONdTELEIAdKENTIMATAdAPOSTROFOSdAPOSTROFOS DIPLIdSYNEVMAdTHITA
dOLIGON ARCHAIONdGORGON ARCHAIONdPSILONdCHAMILONdVATHYdISON ARCHAIONdKENTIMA ARCHAION
dKENTIMATA ARCHAIONdSAXIMATAdPARICHONdSTAVROS APODEXIAdOXEIAI ARCHAIONdVAREIAI ARCHAION
dAPODERMA ARCHAIONdAPOTHEMAdKLASMAdREVMAdPIASMA ARCHAIONdTINAGMAdANATRICHISMAdSEISMA
dSYNAGMA ARCHAIONeMETA STAVROUdOYRANISMA ARCHAIONdTHEMAdLEMOIdDYOdTRIAdTESSERAdKRATIMATA
dAPESO EXO NEOdFTHORA ARCHAIONdIMIFTHORAdTROMIKON ARCHAIONdKATAVA TROMIKONdPELASTONdPSIFISTON
dKONTEVMAdCHOREVMA ARCHAIONdRAPISMAdPARAKALESMA ARCHAIONdPARAKLITIKI ARCHAIONdICHADINdNANA
dPETASMAdKONTEVMA ALLOdTROMIKON ALLOdSTRAGGISMATAdGRONTHISMATAdISON NEOdOLIGON NEOdOXEIA NEO
dPETASTIdKOUFISMAdPETASTOKOUFISMAdKRATIMOKOUFISMAdPELASTON NEOdKENTIMATA NEO ANOdKENTIMA NEO ANO
dYPSILIdAPOSTROFOS NEOdAPOSTROFOI SYNDESMOS NEOdYPORROIdKRATIMOYPORROONdELAFRONdCHAMILI
dMIKRON ISONdVAREIA NEOdPIASMA NEOdPSIFISTON NEOdOMALONdANTIKENOMAdLYGISMAdPARAKLITIKI NEO
dPARAKALESMA NEOdETERON PARAKALESMAdKYLISMAdANTIKENOKYLISMAdTROMIKON NEOdEKSTREPTONdSYNAGMA NEO
dSYRMAdCHOREVMA NEOdEPEGERMAdSEISMA NEOdXIRON KLASMAdTROMIKOPSIFISTONdPSIFISTOLYGISMA
dTROMIKOLYGISMAdTROMIKOPARAKALESMAdPSIFISTOPARAKALESMAdTROMIKOSYNAGMAdPSIFISTOSYNAGMA
dGORGOSYNTHETONdARGOSYNTHETONdETERON ARGOSYNTHETONdOYRANISMA NEOdTHEMATISMOS ESOeEXOdTHEMA APLOUN
dTHES KAI APOTHESdKATAVASMAdENDOFONONdYFEN KATOeANOdSTAVROSdKLASMA ANOdDIPLI ARCHAION
dKRATIMA ARCHAIONeALLOeNEOdAPODERMA NEOdAPLIdDIPLIdTRIPLIdTETRAPLIdKORONISdLEIMMA ENOS CHRONOU
eDYO CHRONONeTRION CHRONONeTESSARON CHRONONeIMISEOS CHRONOUdGORGON NEO ANOePARESTIGMENON ARISTERA
fDEXIAdDIGORGONdDIGORGON PARESTIGMENON ARISTERA KATOgANOfDEXIAdTRIGORGONdARGONdIMIDIARGONdDIARGON
dAGOGI POLI ARGIeARGOTERIeARGIeMETRIAeMESIeGORGIeGORGOTERIePOLI GORGIdMARTYRIA PROTOS ICHOS
eALLI PROTOS ICHOSeDEYTEROS ICHOSeALLI DEYTEROS ICHOSeTRITOS ICHOSeTRIFONIASeTETARTOS ICHOS
fLEGETOS ICHOSeLEGETOS ICHOSePLAGIOS ICHOSdISAKIA TELOUS ICHIMATOSdAPOSTROFOI TELOUS ICHIMATOS
dFANEROSIS TETRAFONIASeMONOFONIASeDIFONIASdMARTYRIA VARYS ICHOSePROTOVARYS ICHOS
ePLAGIOS TETARTOS ICHOSdGORTHMIKON N APLOUNfDIPLOUNdENARXIS KAI FTHORA VOUdIMIFONONdIMIFTHORON
dFTHORA ARCHAION DEYTEROU ICHOUeDIATONIKI PAfNANAeNAOS ICHOSeDIATONIKI DIeSKLIRON DIATONON DI
eDIATONIKI KEfZOfNI KATOgANOeMALAKON CHROMA DIFONIASgMONOFONIASdFHTORA SKLIRON CHROMA VASIS
dFTHORA SKLIRON CHROMA SYNAFIeNENANOdCHROA ZYGOSeKLITONeSPATHIdFTHORA I YFESIS TETARTIMORION
eENARMONIOS ANTIFONIAdYFESIS TRITIMORIONdDIESIS TRITIMORIONeTETARTIMORIONeAPLI DYO DODEKATA
eMONOGRAMMOS TESSERA DODEKATAeDIGRAMMOS EX DODEKATAeTRIGRAMMOS OKTO DODEKATA
dYFESIS APLI DYO DODEKATAeMONOGRAMMOS TESSERA DODEKATAeDIGRAMMOS EX DODEKATA
eTRIGRAMMOS OKTO DODEKATAdGENIKI DIESISeYFESISdDIASTOLI APLI MIKRIfMEGALIeDIPLIeTHESEOS
dSIMANSIS THESEOSeTHESEOS DISIMOUfTRISIMOUfTETRASIMOUeARSEOSeARSEOS DISIMOUfTRISIMOUfTETRASIMOU
dDIGRAMMA GGdDIFTOGGOS OUdSTIGMAdARKTIKO PAeVOUeGAeDIeKEeZOeNIdKENTIMATA NEO MESO
dKENTIMA NEO MESOdKENTIMATA NEO KATOdKENTIMA NEO KATOdKLASMA KATOdGORGON NEO KATO"⟩,
  ⟨0x1d100, "aMUSICAL n SINGLE BARLINEc: BARLINEc= BARLINEcREVERSE = BARLINEcDASHED BARLINE
cSHORT BARLINEc; REPEAT *c+ REPEAT *cREPEAT DOTScDAL SEGNOcDA CAPOcSEGNOcCODAcREPEATED FIGURE-1zz
cFERMATAcFERMATA <cBREATH rcCAESURAcBRACEcwcONE-LINE STAFFcTWO-LINE STAFFcTHREE-LINE STAFF
cFOUR-LINE STAFFcFIVE-LINE STAFFcSIX-LINE STAFFcSIX-STRING FRETBOARDcFOUR-STRING FRETBOARDcG CLEF
dCLEF OTTAVA ALTAfBASSAcC CLEFcF CLEFdCLEF OTTAVA ALTAfBASSAcDRUM CLEF-1z"⟩,
  ⟨0x1d129, "aMUSICAL n MULTIPLE MEASURE RESTc: SHARPdFLATcFLAT UPdDOWNcNATURAL UPdDOWNcSHARP UP
dDOWNcQUARTER TONE SHARPeFLATcCOMMON TIMEcCUT TIMEcOTTAVA ALTAdBASSAcQUINDICESIMA ALTAdBASSA
cMULTI RESTcWHOLE RESTcHALF RESTcQUARTER RESTcEIGHTH RESTcSIXTEENTH RESTcTHIRTY-SECOND REST
cSIXTY-FOURTH RESTcONE t TWENTY-EIGHTH RESTcX NOTEHEADcPLUS NOTEHEADcCIRCLE X NOTEHEAD
cSQUARE NOTEHEAD qeocTRIANGLE NOTEHEAD UP qfoe; qfoe+ qfoeDOWN qfoeUP + qgocMOON NOTEHEAD qeo
cTRIANGLE-ROUND NOTEHEAD DOWN qfocPARENTHESIS NOTEHEADcVOID NOTEHEADcNOTEHEAD ocNULL NOTEHEAD
cCLUSTER NOTEHEAD qeocBREVEcWHOLE NOTEcHALF NOTEcQUARTER NOTEcEIGHTH NOTEcSIXTEENTH NOTE
cTHIRTY-SECOND NOTEcSIXTY-FOURTH NOTEcONE t TWENTY-EIGHTH NOTEcCOMBINING STEMdSPRECHGESANG STEM
dTREMOLO-1zzcFINGERED TREMOLO-1zzcCOMBINING AUGMENTATION DOTdFLAG-1zzzzcBEGIN BEAMcEND BEAM
cBEGIN TIEcEND TIEcBEGIN SLURcEND SLURcBEGIN PHRASEcEND PHRASEcCOMBINING ACCENTdSTACCATOdTENUTO
dSTACCATISSIMOdMARCATOdMARCATO-STACCATOdACCENT-STACCATOdLOUREcARPEGGIATO UPdDOWNcCOMBINING DOIT
dRIPdFLIPdSMEARdBENDd: TONGUEdTRIPLE TONGUEcRINFORZANDOcSUBITOcZcPIANOcMEZZOcFORTEcCRESCENDO
cDECRESCENDOcGRACE NOTE SLASHeNO SLASHcTRcTURNcINVERTED TURNcTURN SLASHdUPcORNAMENT STROKE-1zzzzz
zzzdSTROKE-10zcHAUPTSTIMMEcNEBENSTIMMEcEND OF STIMMEcDEGREE SLASHcCOMBINING DOWN BOWdUP BOW
dHARMONICdSNAP PIZZICATOcPEDAL rdUP rcHALF PEDAL rcGLISSANDO UPdDOWNc$ FINGERNAILScDAMPcDAMP ALL
cMAXIMAcLONGAcBREVIScSEMIBREVIS qdocMINIMAcMINIMA ocSEMIMINIMA qdocFUSA qdocLONGA PERFECTA REST
dIMPERFECTA RESTcBREVIS RESTcSEMIBREVIS RESTcMINIMA RESTcSEMIMINIMA REST
cTEMPUS PERFECTUM CUM PROLATIONE PERFECTAgIMPERFECTAgPERFECTA DIMINUTION-1
dIMPERFECTUM CUM PROLATIONE PERFECTAgIMPERFECTAgIMPERFECTA DIMINUTION-1zzcCROIXcGREGORIAN C CLEF
dF CLEFcSQUARE BcVIRGAcPODATUScCLIVIScSCANDICUScCLIMACUScTORCULUScPORRECTUScPORRECTUS FLEXUS
cSCANDICUS FLEXUScTORCULUS RESUPINUScPES SUBPUNCTIScKIEVAN C CLEFdEND OF PIECEd= NOTE
dRECITATIVE rdWHOLE NOTEdHALF NOTEdQUARTER NOTE STEM DOWNgUPdEIGHTH NOTE STEM DOWNgUPdFLAT *cSORI
cKORON"⟩,
  ⟨0x1d200, "aGREEK VOCAL NOTATION SYMBOL-1zzzzzzzzdSYMBOL-10zzzzzzzzzzzzzzdSYMBOL-50zzzz
bINSTRUMENTAL NOTATION SYMBOL-1zdSYMBOL-4zdSYMBOL-7zdSYMBOL-11zzzdSYMBOL-17zzdSYMBOL-23zzzz
dSYMBOL-29zdSYMBOL-32dSYMBOL-36zzzzdSYMBOL-42zdSYMBOL-45dSYMBOL-47zzzzzzz
aCOMBINING GREEK MUSICAL TRISEMEdTETRASEMEdPENTASEMEaGREEK MUSICAL LEIMMA"⟩,
  ⟨0x1d2c0, "aKAKTOVIK NUMERAL ZEROcONEcTWOc|cFOURcFIVEcSIXcSEVENcEIGHTcNINEcTENcELEVENcTWELVE
cTHIRTEENcFOURTEENcFIFTEENcSIXTEENcSEVENTEENcEIGHTEENcNINETEEN"⟩,
  ⟨0x1d2e0, "aMAYAN NUMERAL ZEROcONEcTWOc|cFOURcFIVEcSIXcSEVENcEIGHTcNINEcTENcELEVENcTWELVE
cTHIRTEENcFOURTEENcFIFTEENcSIXTEENcSEVENTEENcEIGHTEENcNINETEEN"⟩,
  ⟨0x1d300, "aMONOGRAM FOR EARTHaDIGRAM FOR HEAVENLY EARTHcHUMAN EARTHcEARTHLY HEAVENdHUMANcEARTH
aTETRAGRAM FOR CENTREcFULL CIRCLEcMIREDcBARRIERcKEEPING &cCONTRARIETYcASCENTcOPPOSITION
cBRANCHING OUTcDEFECTIVENESS OR DISTORTIONcDIVERGENCEcYOUTHFULNESScINCREASEcPENETRATIONcREACH
cCONTACTcHOLDING BACKcWAITINGcFOLLOWINGcADVANCEcRELEASEcRESISTANCEcEASEcJOYcCONTENTIONcENDEAVOUR
cDUTIEScCHANGEcDECISIVENESScBOLD RESOLUTIONcPACKINGcLEGIONcCLOSENESScKINSHIPcGATHERINGcSTRENGTH
cPURITYcFULLNESScRESIDENCEcLAW OR MODELcRESPONSEcGOING TO MEETcENCOUNTERScSTOVEcGREATNESS
cENLARGEMENTcPATTERNcRITUALcFLIGHTcVASTNESS OR WASTINGcCONSTANCYcMEASUREcETERNITYcUNITY
cDIMINISHMENTcCLOSED MOUTHcGUARDEDNESScGATHERING INcMASSINGcACCUMULATIONcEMBELLISHMENTcDOUBT
cWATCHcSINKINGcINNERcDEPARTUREcDARKENINGcDIMMINGcEXHAUSTIONcSEVERANCEcSTOPPAGEcHARDNESS
cCOMPLETIONcCLOSUREcFAILUREcAGGRAVATIONcCOMPLIANCEcON THE VERGEcDIFFICULTIEScLABOURINGcFOSTERING"⟩,
  ⟨0x1d360, "aCOUNTING ROD UNIT DIGIT ONEeTWOe|eFOUReFIVEeSIXeSEVENeEIGHTeNINEcTENS DIGIT ONEeTWO
e|eFOUReFIVEeSIXeSEVENeEIGHTeNINEaIDEOGRAPHIC TALLY r ONEdTWOd|dFOURdFIVEaTALLY r ONEcFIVE"⟩,
  ⟨0x1d400, "aMATHEMATICAL BOLD % Azzzzzzzzzzzzzzzzzzzzzzzzzc& Azzzzzzzzzzzzzzzzzzzzzzzzz
bITALIC % Azzzzzzzzzzzzzzzzzzzzzzzzzc& Azzzzzz"⟩,
  ⟨0x1d456, "aMATHEMATICAL ITALIC & IzzzzzzzzzzzzzzzzzbBOLD ITALIC % Azzzzzzzzzzzzzzzzzzzzzzzzz
d& AzzzzzzzzzzzzzzzzzzzzzzzzzbSCRIPT % A"⟩,
  ⟨0x1d49e, "aMATHEMATICAL SCRIPT % Cz"⟩,
  ⟨0x1d4a2, "aMATHEMATICAL SCRIPT % G"⟩,
  ⟨0x1d4a5, "aMATHEMATICAL SCRIPT % Jz"⟩,
  ⟨0x1d4a9, "aMATHEMATICAL SCRIPT % Nzzz"⟩,
  ⟨0x1d4ae, "aMATHEMATICAL SCRIPT % Szzzzzzzc& Azzz"⟩,
  ⟨0x1d4bb, "aMATHEMATICAL SCRIPT & F"⟩,
  ⟨0x1d4bd, "aMATHEMATICAL SCRIPT & Hzzzzzz"⟩,
  ⟨0x1d4c5, "aMATHEMATICAL SCRIPT & PzzzzzzzzzzbBOLD SCRIPT % Azzzzzzzzzzzzzzzzzzzzzzzzzd& Azzzzz
zzzzzzzzzzzzzzzzzzzzbFRAKTUR % Az"⟩,
  ⟨0x1d507, "aMATHEMATICAL FRAKTUR % Dzzz"⟩,
  ⟨0x1d50d, "aMATHEMATICAL FRAKTUR % Jzzzzzzz"⟩,
  ⟨0x1d516, "aMATHEMATICAL FRAKTUR % Szzzzzz"⟩,
  ⟨0x1d51e, "aMATHEMATICAL FRAKTUR & AzzzzzzzzzzzzzzzzzzzzzzzzzbDOUBLE-STRUCK % Az"⟩,
  ⟨0x1d53b, "aMATHEMATICAL DOUBLE-STRUCK % Dzzz"⟩,
  ⟨0x1d540, "aMATHEMATICAL DOUBLE-STRUCK % Izzzz"⟩,
  ⟨0x1d546, "aMATHEMATICAL DOUBLE-STRUCK % O"⟩,
  ⟨0x1d54a, "aMATHEMATICAL DOUBLE-STRUCK % Szzzzzz"⟩,
  ⟨0x1d552, "aMATHEMATICAL DOUBLE-STRUCK & AzzzzzzzzzzzzzzzzzzzzzzzzzbBOLD FRAKTUR % Azzzzzzzzzzz
zzzzzzzzzzzzzzd& AzzzzzzzzzzzzzzzzzzzzzzzzzbSANS-SERIF % Azzzzzzzzzzzzzzzzzzzzzzzzzc& Azzzzzzzzzz
zzzzzzzzzzzzzzzcBOLD % Azzzzzzzzzzzzzzzzzzzzzzzzzd& AzzzzzzzzzzzzzzzzzzzzzzzzzcITALIC % Azzzzzzzz
zzzzzzzzzzzzzzzzzd& AzzzzzzzzzzzzzzzzzzzzzzzzzcBOLD ITALIC % Azzzzzzzzzzzzzzzzzzzzzzzzze& Azzzzzz
zzzzzzzzzzzzzzzzzzzbMONOSPACE % Azzzzzzzzzzzzzzzzzzzzzzzzzc& Azzzzzzzzzzzzzzzzzzzzzzzzz
bITALIC & DOTLESS Iz"⟩,
  ⟨0x1d6a8, "aMATHEMATICAL BOLD % ALPHAdBETAdGAMMAdDELTAdEPSILONdZETAdETAdTHETAdIOTAdKAPPAdLAMDA
dMUdNUdXIdOMICRONdPIdRHOdTHETA ndSIGMAdTAUdUPSILONdPHIdCHIdPSIdOMEGAcNABLAc& ALPHAdBETAdGAMMA
dDELTAdEPSILONdZETAdETAdTHETAdIOTAdKAPPAdLAMDAdMUdNUdXIdOMICRONdPIdRHOd= SIGMAdSIGMAdTAUdUPSILON
dPHIdCHIdPSIdOMEGAcPARTIAL DIFFERENTIALcEPSILON ncTHETA ncKAPPA ncPHI ncRHO ncPI nbITALIC % ALPHA
dBETAdGAMMAdDELTAdEPSILONdZETAdETAdTHETAdIOTAdKAPPAdLAMDAdMUdNUdXIdOMICRONdPIdRHOdTHETA ndSIGMA
dTAUdUPSILONdPHIdCHIdPSIdOMEGAcNABLAc& ALPHAdBETAdGAMMAdDELTAdEPSILONdZETAdETAdTHETAdIOTAdKAPPA
dLAMDAdMUdNUdXIdOMICRONdPIdRHOd= SIGMAdSIGMAdTAUdUPSILONdPHIdCHIdPSIdOMEGAcPARTIAL DIFFERENTIAL
cEPSILON ncTHETA ncKAPPA ncPHI ncRHO ncPI nbBOLD ITALIC % ALPHAeBETAeGAMMAeDELTAeEPSILONeZETAeETA
eTHETAeIOTAeKAPPAeLAMDAeMUeNUeXIeOMICRONePIeRHOeTHETA neSIGMAeTAUeUPSILONePHIeCHIePSIeOMEGAdNABLA
d& ALPHAeBETAeGAMMAeDELTAeEPSILONeZETAeETAeTHETAeIOTAeKAPPAeLAMDAeMUeNUeXIeOMICRONePIeRHOe= SIGMA
eSIGMAeTAUeUPSILONePHIeCHIePSIeOMEGAdPARTIAL DIFFERENTIALdEPSILON ndTHETA ndKAPPA ndPHI ndRHO n
dPI nbSANS-SERIF BOLD % ALPHAeBETAeGAMMAeDELTAeEPSILONeZETAeETAeTHETAeIOTAeKAPPAeLAMDAeMUeNUeXI
eOMICRONePIeRHOeTHETA neSIGMAeTAUeUPSILONePHIeCHIePSIeOMEGAdNABLAd& ALPHAeBETAeGAMMAeDELTA
eEPSILONeZETAeETAeTHETAeIOTAeKAPPAeLAMDAeMUeNUeXIeOMICRONePIeRHOe= SIGMAeSIGMAeTAUeUPSILONePHI
eCHIePSIeOMEGAdPARTIAL DIFFERENTIALdEPSILON ndTHETA ndKAPPA ndPHI ndRHO ndPI ndITALIC % ALPHA
fBETAfGAMMAfDELTAfEPSILONfZETAfETAfTHETAfIOTAfKAPPAfLAMDAfMUfNUfXIfOMICRONfPIfRHOfTHETA nfSIGMA
fTAUfUPSILONfPHIfCHIfPSIfOMEGAeNABLAe& ALPHAfBETAfGAMMAfDELTAfEPSILONfZETAfETAfTHETAfIOTAfKAPPA
fLAMDAfMUfNUfXIfOMICRONfPIfRHOf= SIGMAfSIGMAfTAUfUPSILONfPHIfCHIfPSIfOMEGAePARTIAL DIFFERENTIAL
eEPSILON neTHETA neKAPPA nePHI neRHO nePI nbBOLD % DIGAMMAc& DIGAMMA"⟩,
  ⟨0x1d7ce, "aMATHEMATICAL BOLD DIGIT ZEROdONEdTWOd|dFOURdFIVEdSIXdSEVENdEIGHTdNINE
bDOUBLE-STRUCK DIGIT ZEROdONEdTWOd|dFOURdFIVEdSIXdSEVENdEIGHTdNINEbSANS-SERIF DIGIT ZEROdONEdTWO
d|dFOURdFIVEdSIXdSEVENdEIGHTdNINEcBOLD DIGIT ZEROeONEeTWOe|eFOUReFIVEeSIXeSEVENeEIGHTeNINE
bMONOSPACE DIGIT ZEROdONEdTWOd|dFOURdFIVEdSIXdSEVENdEIGHTdNINEaSIGNWRITING HAND-FIST INDEX
bHAND-CIRCLE INDEXbHAND-CUP INDEXbHAND-OVAL INDEXbHAND-HINGE INDEXbHAND-ANGLE INDEX
bHAND-FIST INDEX BENTbHAND-CIRCLE INDEX BENTbHAND-FIST THUMB UNDER INDEX BENT
cINDEX RAISED KNUCKLEdCUPPEDdHINGEDdHINGED LOWbHAND-CIRCLE INDEX HINGEbHAND-FIST INDEX s
bHAND-CIRCLE INDEX sbHAND-FIST INDEX s BENTeRAISED KNUCKLESeHINGEDdUP s HINGEDdHINGED s UP
ds CONJOINEDeCONJOINED INDEX BENTfs BENTfCUPPEDfHINGEDeCROSSEDbHAND-CIRCLE INDEX s CROSSED
bHAND-FIST s BENT OVER INDEXcINDEX BENT OVER sds THUMBbHAND-CIRCLE INDEX s THUMB
bHAND-FIST INDEX s STRAIGHT THUMB BENTeBENT THUMB STRAIGHTeTHUMB BENTeHINGED SPREAD THUMB SIDE
dUP s HINGED THUMB SIDEhCONJOINEDdHINGED s UP THUMB SIDEds UP SPREAD THUMB FORWARDeTHUMB CUPPED
fCIRCLEDfHOOKEDfHINGEDcTHUMB BETWEEN INDEX s STRAIGHTcINDEX s CONJOINED THUMB SIDEgSIDE CONJOINED
hBENTcs THUMB HOOKED INDEX UPcINDEX THUMB HOOKED s UPds CONJOINED HINGED THUMB SIDE
eCROSSED THUMB SIDEeCONJOINED THUMB FORWARDfCUPPED THUMB FORWARDcs THUMB CUPPED INDEX UP
cINDEX THUMB CUPPED s UPcs THUMB CIRCLED INDEX UPgHINGEDcINDEX THUMB ANGLED OUT s UPfIN s UP
eCIRCLED s UPds THUMB CONJOINED HINGEDfANGLED OUTfANGLEDcs THUMB ANGLED OUT INDEX UPhCROSSED
fINDEX UPcINDEX THUMB HOOKED s HINGEDbHAND-FLAT FOUR FINGERSdFINGERS BENTeHINGEDeCONJOINED
eCONJOINED SPLITbHAND-CLAW FOUR FINGERS CONJOINEDbHAND-FIST FOUR FINGERS CONJOINED BENT
bHAND-HINGE FOUR FINGERS CONJOINEDbHAND-FLAT FIVE FINGERS SPREADcHEEL FIVE FINGERS SPREAD
cFIVE FINGERS SPREAD FOUR BENTcHEEL FIVE FINGERS SPREAD FOUR BENTcFIVE FINGERS SPREAD BENT
cHEEL FIVE FINGERS SPREAD BENTcFIVE FINGERS SPREAD THUMB FORWARDbHAND-CUP FIVE FINGERS SPREAD
eSPREAD OPENbHAND-HINGE FIVE FINGERS SPREAD OPENbHAND-OVAL FIVE FINGERS SPREAD
bHAND-FLAT FIVE FINGERS SPREAD HINGEDfHINGED THUMB SIDEgNO THUMBbHAND-FLAT
bHAND-FLAT BETWEEN PALM FACINGScHEELcTHUMB SIDEcHEEL THUMB SIDEcTHUMB BENTdFORWARD
cSPLIT INDEX THUMB SIDEdCENTREdCENTRE THUMB SIDEfSIDE BENTdLITTLEbHAND-CLAWbHAND-CLAW THUMB SIDE
cNO THUMBcTHUMB FORWARDbHAND-HOOK CURLICUEbHAND-HOOKbHAND-CUP OPENbHAND-CUP
bHAND-CUP OPEN THUMB SIDEcTHUMB SIDEcOPEN NO THUMBcNO THUMBcOPEN THUMB FORWARDcTHUMB FORWARD
bHAND-CURLICUE OPENbHAND-CURLICUEbHAND-CIRCLEbHAND-OVALbHAND-OVAL THUMB SIDEcNO THUMB
cTHUMB FORWARDbHAND-HINGE OPENcOPEN THUMB FORWARDbHAND-HINGEbHAND-HINGE &cOPEN THUMB SIDE
cTHUMB SIDEcOPEN NO THUMBcNO THUMBcTHUMB SIDE TOUCHING INDEXdBETWEEN s RINGbHAND-ANGLE
bHAND-FIST INDEX s RINGbHAND-CIRCLE INDEX s RINGbHAND-HINGE INDEX s RINGbHAND-ANGLE INDEX s RING
bHAND-HINGE LITTLEbHAND-FIST INDEX s RING BENTfCONJOINEDbHAND-HINGE INDEX s RING CONJOINED
bHAND-FIST LITTLE DOWNdDOWN RIPPLE STRAIGHTfCURVEDeOTHERS CIRCLEDdUPcTHUMB UNDER LITTLE UP
bHAND-CIRCLE LITTLE UPbHAND-OVAL LITTLE UPbHAND-ANGLE LITTLE UPbHAND-FIST LITTLE RAISED KNUCKLE
dBENTdTOUCHES THUMBdTHUMBbHAND-HINGE LITTLE THUMBbHAND-FIST LITTLE INDEX THUMB
bHAND-HINGE LITTLE INDEX THUMBbHAND-ANGLE LITTLE INDEX THUMB INDEX THUMB OUTgTHUMB
bHAND-FIST LITTLE INDEXbHAND-CIRCLE LITTLE INDEXbHAND-HINGE LITTLE INDEXbHAND-ANGLE LITTLE INDEX
bHAND-FIST INDEX s LITTLEbHAND-CIRCLE INDEX s LITTLEbHAND-HINGE INDEX s LITTLEcRING
bHAND-ANGLE INDEX s LITTLEbHAND-FIST INDEX s CROSS LITTLEbHAND-CIRCLE INDEX s CROSS LITTLE
bHAND-FIST RING DOWNbHAND-HINGE RING DOWN INDEX THUMB HOOK s
bHAND-ANGLE RING DOWN s THUMB INDEX CROSSbHAND-FIST RING UPdRAISED KNUCKLEdLITTLE
bHAND-CIRCLE RING LITTLEbHAND-OVAL RING LITTLEbHAND-ANGLE RING LITTLEbHAND-FIST RING s
ds CONJOINEDeRAISED KNUCKLESdINDEXdTHUMBbHAND-HOOK RING THUMBbHAND-FIST INDEX RING LITTLE
bHAND-CIRCLE INDEX RING LITTLEbHAND-CURLICUE INDEX RING LITTLE ONbHAND-HOOK INDEX RING LITTLE OUT
fINfUNDERbHAND-CUP INDEX RING LITTLEbHAND-HINGE INDEX RING LITTLE
bHAND-ANGLE INDEX RING LITTLE OUTeLITTLEbHAND-FIST s DOWNbHAND-HINGE sbHAND-FIST s UP
bHAND-CIRCLE s UPbHAND-FIST s RAISED KNUCKLEdUP THUMB SIDEbHAND-HOOK s THUMB
bHAND-FIST s THUMB LITTLEdLITTLEdRING LITTLEbHAND-CIRCLE s RING LITTLE
bHAND-CURLICUE s RING LITTLE ONbHAND-CUP s RING LITTLEbHAND-HINGE s RING LITTLE
bHAND-ANGLE s RING LITTLE OUTfINeLITTLEbHAND-CIRCLE s RING LITTLE BENT
bHAND-CLAW s RING LITTLE CONJOINEDfCONJOINED SIDEbHAND-HOOK s RING LITTLE CONJOINED OUTgIN
fCONJOINEDbHAND-HINGE INDEX HINGEDbHAND-FIST INDEX THUMB SIDEbHAND-HINGE INDEX THUMB SIDE
bHAND-FIST INDEX THUMB SIDE THUMB DIAGONALgCONJOINEDgBENTfINDEX BENTfBOTH BENTfINDEX HINGE
eFORWARD INDEX STRAIGHTgBENTeHOOKeCURLICUEeCURVE THUMB INSIDE
bHAND-CLAW INDEX THUMB CURVE THUMB INSIDEbHAND-FIST INDEX THUMB CURVE THUMB UNDEReCIRCLE
bHAND-CUP INDEX THUMBdTHUMB OPENbHAND-HINGE INDEX THUMB OPENeLARGEdTHUMBdTHUMB &
bHAND-ANGLE INDEX THUMB OUTeINdTHUMBbHAND-FIST THUMBcTHUMB HEELdSIDE DIAGONALeCONJOINEDeBENT
dFORWARDdBETWEEN INDEX ses RINGeRING LITTLEdUNDER TWO FINGERSdOVER TWO FINGERSdUNDER | FINGERS
eFOUR FINGERSdOVER FOUR RAISED KNUCKLESbHAND-FISTbHAND-FIST HEELbTOUCH SINGLEcMULTIPLEcBETWEEN
bGRASP SINGLEcMULTIPLEcBETWEENbSTRIKE SINGLEcMULTIPLEcBETWEENbBRUSH SINGLEcMULTIPLEcBETWEEN
bRUB SINGLEcMULTIPLEcBETWEENbSURFACE SYMBOLScBETWEENbSQUEEZE LARGE SINGLEc& SINGLEcLARGE MULTIPLE
c& MULTIPLEcSEQUENTIALbFLICK LARGE SINGLEc& SINGLEcLARGE MULTIPLEc& MULTIPLEcSEQUENTIAL
bSQUEEZE FLICK ALTERNATINGbMOVEMENT-HINGE UP DOWN LARGEe&dSEQUENTIALcDOWN SEQUENTIAL
cUP DOWN ALTERNATING LARGEf&cSIDE TO SIDE SCISSORSbMOVEMENT-WALLPLANE FINGER CONTACT
bMOVEMENT-FLOORPLANE FINGER CONTACTbMOVEMENT-WALLPLANE SINGLE STRAIGHT &eMEDIUMeLARGEeLARGEST
dWRIST FLEXc: STRAIGHTdWRIST FLEXdALTERNATINGdALTERNATING WRIST FLEXcCROSS
cTRIPLE STRAIGHT MOVEMENTdWRIST FLEXdALTERNATINGdALTERNATING WRIST FLEXcBEND &dMEDIUMdLARGE
cCORNER &dMEDIUMdLARGEdROTATIONcCHECK &dMEDIUMdLARGEcBOX &dMEDIUMdLARGEcZIGZAG &dMEDIUMdLARGE
cPEAKS &dMEDIUMdLARGEbTRAVEL-WALLPLANE ROTATION-WALLPLANE SINGLEd:dALTERNATING
cROTATION-FLOORPLANE SINGLEd:dALTERNATINGcSHAKINGcARM SPIRAL SINGLEe:eTRIPLE
bMOVEMENT-DIAGONAL AWAY &dMEDIUMdLARGEdLARGESTcTOWARDS &dMEDIUMdLARGEdLARGESTcBETWEEN AWAY &
eMEDIUMeLARGEeLARGESTdTOWARDS &eMEDIUMeLARGEeLARGESTbMOVEMENT-FLOORPLANE SINGLE STRAIGHT &eMEDIUM
eLARGEeLARGESTdWRIST FLEXc: STRAIGHTdWRIST FLEXdALTERNATINGdALTERNATING WRIST FLEXcCROSS
cTRIPLE STRAIGHT MOVEMENTdWRIST FLEXdALTERNATING MOVEMENTeWRIST FLEXcBENDcCORNER &dMEDIUMdLARGE
cCHECKcBOX &dMEDIUMdLARGEcZIGZAG &dMEDIUMdLARGEcPEAKS &dMEDIUMdLARGE
bTRAVEL-FLOORPLANE ROTATION-FLOORPLANE SINGLEd:dALTERNATINGcROTATION-WALLPLANE SINGLEd:
dALTERNATINGcSHAKINGbMOVEMENT-WALLPLANE CURVE QUARTER &eMEDIUMeLARGEeLARGESTdHALF-CIRCLE &eMEDIUM
eLARGEeLARGESTdTHREE-QUARTER CIRCLE &fMEDIUMcHUMP &dMEDIUMdLARGEcLOOP &dMEDIUMdLARGEd& :
cWAVE CURVE : &fMEDIUMfLARGEeTRIPLE &fMEDIUMfLARGEcCURVE THEN STRAIGHTcCURVED CROSS &eMEDIUM
bROTATION-WALLPLANE SINGLEc:cALTERNATEbMOVEMENT-WALLPLANE SHAKINGcCURVE HITTING FRONT WALL
cHUMP HITTING FRONT WALLcLOOP HITTING FRONT WALLcWAVE HITTING FRONT WALL
bROTATION-WALLPLANE SINGLE HITTING FRONT WALLc: HITTING FRONT WALLcALTERNATING HITTING FRONT WALL
bMOVEMENT-WALLPLANE CURVE HITTING CHESTcHUMP HITTING CHESTcLOOP HITTING CHESTcWAVE HITTING CHEST
bROTATION-WALLPLANE SINGLE HITTING CHESTc: HITTING CHESTcALTERNATING HITTING CHEST
bMOVEMENT-WALLPLANE WAVE DIAGONAL PATH &fMEDIUMfLARGEbMOVEMENT-FLOORPLANE CURVE HITTING CEILING &
fLARGEcHUMP HITTING CEILING & :fLARGE :f& TRIPLEfLARGE TRIPLEcLOOP HITTING CEILING & SINGLE
fLARGE SINGLEf& :fLARGE :cWAVE HITTING CEILING &fLARGEbROTATION-FLOORPLANE SINGLE HITTING CEILING
c: HITTING CEILINGcALTERNATING HITTING CEILINGbMOVEMENT-FLOORPLANE CURVE HITTING FLOOR &fLARGE
cHUMP HITTING FLOOR & :fLARGE :fTRIPLE & TRIPLEgLARGE TRIPLEcLOOP HITTING FLOOR & SINGLE
fLARGE SINGLEf& :fLARGE :cWAVE HITTING FLOOR &fLARGEbROTATION-FLOORPLANE SINGLE HITTING FLOOR
c: HITTING FLOORcALTERNATING HITTING FLOORbMOVEMENT-FLOORPLANE CURVE &dMEDIUMdLARGEdLARGEST
dCOMBINEDcHUMP &cLOOP &cWAVE SNAKEd&dLARGEbROTATION-FLOORPLANE SINGLEc:cALTERNATING
bMOVEMENT-FLOORPLANE SHAKING PARALLELbMOVEMENT-WALLPLANE ARM CIRCLE & SINGLEeMEDIUM SINGLEe& :
eMEDIUM :bMOVEMENT-FLOORPLANE ARM CIRCLE HITTING WALL & SINGLEgMEDIUM SINGLEgLARGE SINGLEg& :
gMEDIUM :gLARGE :bMOVEMENT-WALLPLANE WRIST CIRCLE FRONT SINGLEf:
bMOVEMENT-FLOORPLANE WRIST CIRCLE HITTING WALL SINGLEg:bMOVEMENT-WALLPLANE FINGER CIRCLES SINGLE
e:bMOVEMENT-FLOORPLANE FINGER CIRCLES HITTING WALL SINGLEg:bDYNAMIC ARROWHEAD &dLARGEcFASTcSLOW
cTENSEcRELAXEDcSIMULTANEOUScSIMULTANEOUS ALTERNATINGcEVERY OTHER TIMEcGRADUALbHEADbHEAD RIM
cMOVEMENT-WALLPLANE STRAIGHTdTILTcMOVEMENT-FLOORPLANE STRAIGHTcMOVEMENT-WALLPLANE CURVE
cMOVEMENT-FLOORPLANE CURVEcMOVEMENT CIRCLEbFACE DIRECTION POSITION NOSE FORWARD TILTING
fUP OR DOWNhDOWN TILTINGbEYEBROWS STRAIGHT UPdNEUTRALdDOWNbDREAMY EYEBROWS NEUTRAL DOWN
dDOWN NEUTRALdUP NEUTRALdNEUTRAL UPbFOREHEAD NEUTRALcCONTACTcWRINKLEDbEYES OPENcSQUEEZEDcCLOSED
bEYE BLINK SINGLEdMULTIPLEbEYES HALF OPENcWIDE OPENcHALF CLOSEDcWIDENING MOVEMENTbEYE WINK
bEYELASHES UPcDOWNcFLUTTERINGbEYEGAZE-WALLPLANE STRAIGHTcSTRAIGHT :dALTERNATING
bEYEGAZE-FLOORPLANE STRAIGHTcSTRAIGHT :dALTERNATINGbEYEGAZE-WALLPLANE CURVED
bEYEGAZE-FLOORPLANE CURVEDbEYEGAZE-WALLPLANE CIRCLINGbCHEEKS PUFFEDcNEUTRALcSUCKED
bTENSE CHEEKS HIGHdsdLOWbEARSbNOSE NEUTRALcCONTACTcWRINKLEScWIGGLESbAIR BLOWING OUTcSUCKING IN
cBLOW & ROTATIONScSUCK & ROTATIONSbBREATH INHALEcEXHALEbMOUTH CLOSED NEUTRALdFORWARDdCONTACT
cSMILEcSMILE WRINKLEDdOPENcFROWNcFROWN WRINKLEDdOPENcOPEN CIRCLEdFORWARDdWRINKLEDdOVAL
dOVAL WRINKLEDeYAWNdRECTANGLEdRECTANGLE WRINKLEDeYAWNcKISScKISS FORWARDdWRINKLEDcTENSE
cTENSE FORWARDdSUCKEDbLIPS PRESSED TOGETHERbLIP LOWER OVER UPPERcUPPER OVER LOWERbMOUTH CORNERS
cWRINKLES SINGLEd:bTONGUE STICKING OUT FARcLICKING LIPScTIP BETWEEN LIPSdTOUCHING INSIDE MOUTH
cINSIDE MOUTH RELAXEDcMOVES AGAINST CHEEKcCENTRE STICKING OUTdINSIDE MOUTHbTEETHbTEETH MOVEMENT
cON TONGUEdTONGUE MOVEMENTdLIPSdLIPS MOVEMENTcBITE LIPSbMOVEMENT-WALLPLANE JAW
bMOVEMENT-FLOORPLANE JAWbNECKbHAIRbEXCITEMENTbSHOULDER HIP SPINEdPOSITIONS
bWALLPLANE SHOULDER HIP MOVEbFLOORPLANE SHOULDER HIP MOVEbSHOULDER TILTING FROM WAIST
bTORSO-WALLPLANE STRAIGHT STRETCHcCURVED BENDbTORSO-FLOORPLANE TWISTING
bUPPER BODY TILTING FROM HIP JOINTSbLIMB COMBINATIONcLENGTH-1zzzzzzbFINGER
bLOCATION-WALLPLANE SPACEbLOCATION-FLOORPLANE SPACEbLOCATION HEIGHTcWIDTHcDEPTHcHEAD NECKcTORSO
cLIMBS DIGITSbCOMMAbFULL STOPbSEMICOLONbCOLONbPARENTHESIS"⟩,
  ⟨0x1da9b, "aSIGNWRITING FILL MODIFIER-2zzzz"⟩,
  ⟨0x1daa1, "aSIGNWRITING ROTATION MODIFIER-2zzzzzzzcMODIFIER-10zzzzzz"⟩,
  ⟨0x1df00, "aLATIN & ! FENG DIGRAPH $ TRILLdREVERSED SCRIPT Gb! & % TURNED Gb& ! REVERSED K
b! & % L $ BELTb& ! LEZH $ RETROFLEX HOOKdTURNED Y $ BELTdREVERSED ENG
dTURNED R $ LONG LEG > RETROFLEX HOOKdT $ HOOK > RETROFLEX HOOK
b! RETROFLEX CLICK $ RETROFLEX HOOKb& ! ESH $ : BARgBAR > CURLdTURNED T $ CURL
b! INVERTED GLOTTAL STOP $ CURLcSTRETCHED C $ CURLc& % TURNED Kb& ! L $ FISHHOOK
dDEZH DIGRAPH $ PALATAL HOOKdL $ BELT > PALATAL HOOKdENG $ PALATAL HOOKdTURNED R $ PALATAL HOOK
dR $ FISHHOOK > PALATAL HOOKdTESH DIGRAPH $ PALATAL HOOKdEZH $ PALATAL HOOK
dDEZH DIGRAPH $ RETROFLEX HOOKdI $ m > RETROFLEX HOOKdO $ RETROFLEX HOOK
dTESH DIGRAPH $ RETROFLEX HOOKdC $ RETROFLEX HOOKdS $ CURL"⟩,
  ⟨0x1df25, "aLATIN & ! D $ MID-HEIGHT ; HOOKdL $ MID-HEIGHT ; HOOKdN $ MID-HEIGHT ; HOOK
dR $ MID-HEIGHT ; HOOKdS $ MID-HEIGHT ; HOOKdT $ MID-HEIGHT ; HOOK"⟩]

end CallTree.Text.CharName
