import CallTree.Text.CharName.Packed

/-!
# Names of characters: ancient scripts

The characters from U+10000 on and below U+14400: scripts of antiquity, cuneiform and the
hieroglyphs of Egypt.
-/

namespace CallTree.Text.CharName

/-- The names of these characters. -/
def ancient : List Run := [
  ⟨0x10000, "aLINEAR B SYLLABLE B008 AdB038 EdB028 IdB061 OdB010 UdB001 DAdB045 DEdB007 DI
dB014 DOdB051 DUdB057 JAdB046 JE"⟩,
  ⟨0x1000d, "aLINEAR B SYLLABLE B036 JOdB065 JUdB077 KAdB044 KEdB067 KIdB070 KOdB081 KUdB080 MA
dB013 MEdB073 MIdB015 MOdB023 MUdB006 NAdB024 NEdB030 NIdB052 NOdB055 NUdB003 PAdB072 PEdB039 PI
dB011 POdB050 PUdB016 QAdB078 QEdB021 QIdB032 QO"⟩,
  ⟨0x10028, "aLINEAR B SYLLABLE B060 RAdB027 REdB053 RIdB002 ROdB026 RUdB031 SAdB009 SEdB041 SI
dB012 SOdB058 SUdB059 TAdB004 TEdB037 TIdB005 TOdB069 TUdB054 WAdB075 WEdB040 WIdB042 WO"⟩,
  ⟨0x1003c, "aLINEAR B SYLLABLE B017 ZAdB074 ZE"⟩,
  ⟨0x1003f, "aLINEAR B SYLLABLE B020 ZOdB025 A2dB043 A3dB085 AUdB071 DWEdB090 DWOdB048 NWA
dB029 PU2dB062 PTEdB076 RA2dB033 RA3dB068 RO2dB066 TA2dB087 TWEdB091 TWO"⟩,
  ⟨0x10050, "aLINEAR B n B018zdB022dB034dB047dB049dB056dB063zdB079dB082zdB086dB089"⟩,
  ⟨0x10080, "aLINEAR B IDEOGRAM B100 MANdB102 WOMANdB104 DEERdB105 EQUIDdB105F MARE
dB105M STALLIONdB106F EWEdB106M RAMdB107F SHE-GOATdB107M HE-GOATdB108F SOWdB108M BOARdB109F COW
dB109M BULLdB120 WHEATdB121 BARLEYdB122 OLIVEdB123 SPICEdB125 CYPERUScMONOGRAM B127 KAPO
dB128 KANAKOcIDEOGRAM B130 OILdB131 WINEdB132cMONOGRAM B133 AREPAdB135 MERIcIDEOGRAM B140 BRONZE
dB141 GOLDdB142dB145 WOOLdB146dB150dB151 HORNdB152zzcMONOGRAM B156 TURO2cIDEOGRAM B157z
dB159 CLOTHdB160zdB162 GARMENTdB163 ARMOURdB164zzzzzzzzdB173 MONTHdB174dB176 TREEdB177zzzzzzzz
dB189zdB191 HELMETdB220 FOOTSTOOLdB225 BATHTUBdB230 SPEARdB231 )dB232dB233 SWORDdB234dB236
dB240 WHEELED CHARIOTdB241 CHARIOTdB242 CHARIOT FRAMEdB243 WHEELdB245zcMONOGRAM B247 DIPTE
cIDEOGRAM B248zdB251zzdB254 DARTdB255zzzzdVESSEL B155eB200zzzzzzzzzzzzzzzzzzzeB221zeB226zzzeB250
eB305"⟩,
  ⟨0x10100, "aAEGEAN WORD SEPARATOR LINEdDOTbCHECK r"⟩,
  ⟨0x10107, "aAEGEAN NUMBER ONEcTWOc|cFOURcFIVEcSIXcSEVENcEIGHTcNINEcTENcTWENTYcTHIRTYcFORTY
cFIFTYcSIXTYcSEVENTYcEIGHTYcNINETYcONE tcTWO tc| tcFOUR tcFIVE tcSIX tcSEVEN tcEIGHT tcNINE t
cONE vcTWO vc| vcFOUR vcFIVE vcSIX vcSEVEN vcEIGHT vcNINE vcTEN vcTWENTY vcTHIRTY vcFORTY v
cFIFTY vcSIXTY vcSEVENTY vcEIGHTY vcNINETY v"⟩,
  ⟨0x10137, "aAEGEAN WEIGHT BASE UNITcFIRST SUBUNITcSECOND SUBUNITcTHIRD SUBUNITcFOURTH SUBUNIT
bDRY MEASURE FIRST SUBUNITbLIQUID MEASURE FIRST SUBUNITbMEASURE SECOND SUBUNITcTHIRD SUBUNIT
aGREEK ACROPHONIC ATTIC ONE QUARTEReHALFeDRACHMAdFIVEdFIFTYdFIVE tevdFIFTY vdFIVE TALENTS
dTEN TALENTSdFIFTY TALENTSdONE t TALENTSdFIVE t TALENTSdONE v TALENTSdFIVE v TALENTSeSTATERS
dTEN STATERSdFIFTY STATERSdONE t STATERSdFIVE t STATERSdONE v STATERSdTEN v STATERS
dFIFTY v STATERSdTEN MNAScHERAEUM ONE PLETHRONcTHESPIAN ONEcHERMIONIAN ONEcEPIDAUREAN TWO
cTHESPIAN TWOcCYRENAIC TWO DRACHMAScEPIDAUREAN TWO DRACHMAScTROEZENIAN FIVEdTENdTEN ALTERNATE (
cHERMIONIAN TENcMESSENIAN TENcTHESPIAN TENdTHIRTYcTROEZENIAN FIFTYdFIFTY ALTERNATE (
cHERMIONIAN FIFTYcTHESPIAN FIFTYdONE td| tcEPIDAUREAN FIVE tcTROEZENIAN FIVE tcTHESPIAN FIVE t
cCARYSTIAN FIVE tcNAXIAN FIVE tcTHESPIAN ONE vdFIVE vcDELPHIC FIVE MNAScSTRATIAN FIFTY MNAS
bONE HALF *d* ALTERNATE (bTWO THIRDS *b| QUARTERS *bYEAR *bTALENT *bDRACHMA *bOBOL *bTWO OBOLS *
b| OBOLS *bFOUR OBOLS *bFIVE OBOLS *bMETRETES *bKYATHOS BASE *bLITRA *bOUNKIA *bXESTES *bARTABE *
bAROURA *bGRAMMA *bTRYBLION BASE *bZERO *bONE QUARTER *bSINUSOID *bINDICTION *aNOMISMA *"⟩,
  ⟨0x10190, "aROMAN SEXTANS *bUNCIA *bSEMUNCIA *bSEXTULA *bDIMIDIA SEXTULA *bSILIQUA *bDENARIUS *
bQUINARIUS *bSESTERTIUS *bDUPONDIUS *bAS *bCENTURIAL *aASCIA n"⟩,
  ⟨0x101a0, "aGREEK n TAU RHO"⟩,
  ⟨0x101d0, "aPHAISTOS DISC * PEDESTRIANdPLUMED HEADdTATTOOED HEADdCAPTIVEdCHILDdWOMANdHELMET
dGAUNTLETdTIARAd)dBOWdSHIELDdCLUBdMANACLESdMATTOCKdSAWdLIDdBOOMERANGdCARPENTRY PLANEdDOLIUMdCOMB
dSLINGdCOLUMNdBEEHIVEdSHIPdHORNdHIDEdBULLS LEGdCATdRAMdEAGLEdDOVEdTUNNYdBEEdPLANE TREEdVINE
dPAPYRUSdROSETTEdLILYdOX BACKdFLUTEdGRATERdSTRAINERd& AXEdWAVY BANDdCOMBINING OBLIQUE m"⟩,
  ⟨0x10280, "aLYCIAN ! AcEcBcBHcGcDcIcWcZcTHcJzcQcLzzcMMcNNcUcPcKKcRzzcTTcANcENcHcX"⟩,
  ⟨0x102a0, "aCARIAN ! AcP2cDcLcUUUcRcLDcA2cQcBcMcOcD2cTcSHcSH2cScC-18cUcNNcXcNcTT2cPcSScIcEcUUUU
cKcK2cNDcUUcGcG2cSTcST2cNGcIIcC-39cTTcUUU2cRRcMBcMB2zzcLD2cE2cUUU3"⟩,
  ⟨0x102e0, "aCOPTIC EPACT THOUSANDS rcDIGIT ONEdTWOd|dFOURdFIVEdSIXdSEVENdEIGHTdNINEcNUMBER TEN
dTWENTYdTHIRTYdFORTYdFIFTYdSIXTYdSEVENTYdEIGHTYdNINETYdONE tdTWO td| tdFOUR tdFIVE tdSIX t
dSEVEN tdEIGHT tdNINE t"⟩,
  ⟨0x10300, "aOLD ITALIC ! AdBEdKEdDEdEdVEdZEdHEdTHEdIdKAdELzzdESHdOdPEdSHEdKUdERzdTEdUdEKSdPHE
dKHEdEFdERSdCHEdIIdUUdESScNUMERAL ONEdFIVEdTENdFIFTY"⟩,
  ⟨0x1032d, "aOLD ITALIC ! YEdNORTHERN TSEdSOUTHERN TSEaGOTHIC ! AHSAcBAIRKANcGIBAcDAGScAIHVUS
cQAIRTHRAcIUJAcHAGLcTHIUTHcEIScKUSMAcLAGUScMANNAcNAUTHScJERcURUScPAIRTHRAcNINETYcRAIDAcSAUIL
cTEIWScWINJAcFAIHUcIGGWScHWAIRcOTHALcNINE t"⟩,
  ⟨0x10350, "aOLD PERMIC ! ANdBURdGAIdDOIdEdZHOIdDZHOIdZATAdDZITAdIdKOKEdLEIdMENOEdNENOEdVOOI
dPEEIdREIdSIIdTAIdUdCHERYdSHOOIdSHCHOOIdYRYdYERUdOdOOdEFdHAdTSIUdVERdYERdYERIdYATdIEdYUdYAdIA
aCOMBINING OLD PERMIC ! ANeDOIeZATAeNENOEeSII"⟩,
  ⟨0x10380, "aUGARITIC ! ALPAcBETAcGAMLAcKHAcDELTAcHOcWOcZETAcHOTAcTETcYODcKAFcSHINcLAMDAcMEM
cDHALcNUNcZUcSAMKAcAINcPUcSADEcQOPAcRASHAcTHANNAcGHAINcTOcIcUcSSU"⟩,
  ⟨0x1039f, "aUGARITIC WORD DIVIDERaOLD PERSIAN * AdIdUdKAdKUdGAdGUdXAdCAdJAdJIdTAdTUdDAdDIdDU
dTHAdPAdBAdFAdNAdNUdMAdMIdMUdYAdVAdVIdRAdRUdLAdSAdZAdSHAdSSAdHA"⟩,
  ⟨0x103c8, "aOLD PERSIAN * AURAMAZDAAdAURAMAZDAA-2dAURAMAZDAAHAdXSHAAYATHIYAdDAHYAAUSH
dDAHYAAUSH-2dBAGAdBUUMISHcWORD DIVIDERcNUMBER ONEdTWOdTENdTWENTYdt"⟩,
  ⟨0x10400, "aDESERET % ! LONG IeEeAeAHeOeOOdSHORT IeEeAeAHeOeOOdAYdOWdWUdYEEdHdPEEdBEEdTEEdDEE
dCHEEdJEEdKAYdGAYdEFdVEEdETHdTHEEdESdZEEdESHdZHEEdERdELzzdENGdOIdEWb& ! LONG IeEeAeAHeOeOO
dSHORT IeEeAeAHeOeOOdAYdOWdWUdYEEdHdPEEdBEEdTEEdDEEdCHEEdJEEdKAYdGAYdEFdVEEdETHdTHEEdESdZEEdESH
dZHEEdERdELzzdENGdOIdEWaSHAVIAN ! PEEPcTOTcKICKcFEEcTHIGHcSOcSUREcCHURCHcYEAcHUNGcBIBcDEADcGAG
cVOWcTHEYcZOOcMEASUREcJUDGEcWOEcHA-HAcLOLLcMIMEcIFcEGGcASHcADOcONcWOOLcOUTcAHcROARcNUNcEATcAGE
cICEcUPcOAKcOOZEcOILcAWEcAREcORcAIRcERRcARRAYcEARcIANcYEWaOSMANYA ! ALEFcBAcTAcJAcXAcKHAcDEELcRA
cSAcSHIINcDHAcCAYNcGAcFAcQAAFcKAAFcLAANcMIINcNUUNcWAWcHAcYAcAcEcIcOcUcAAcEEcOO"⟩,
  ⟨0x104a0, "aOSMANYA DIGIT ZEROcONEcTWOc|cFOURcFIVEcSIXcSEVENcEIGHTcNINE"⟩,
  ⟨0x104b0, "aOSAGE % ! AdAIdAINdAHdBRAdCHAdEHCHAdEdEINdHAdHYAdIdKAdEHKAdKYAdLAdMAdNAdOdOINdPA
dEHPAdSAdSHAdTAdEHTAdTSAdEHTSAdTSHAdDHAdUdWAdKHAdGHAdZAdZHA"⟩,
  ⟨0x104d8, "aOSAGE & ! AdAIdAINdAHdBRAdCHAdEHCHAdEdEINdHAdHYAdIdKAdEHKAdKYAdLAdMAdNAdOdOINdPA
dEHPAdSAdSHAdTAdEHTAdTSAdEHTSAdTSHAdDHAdUdWAdKHAdGHAdZAdZHA"⟩,
  ⟨0x10500, "aELBASAN ! AcBEcCEcCHEcDEcNDEcDHEcEIcEcFEcGEcGJEcHEcIcJEcKEcLEcLLEcMEcNEcNAcNJEcOcPE
cQEcREcRREcSEcSHEcTEcTHEcUcVEcXEcYcZEcZHEcGHEcGHAMMAcKHE"⟩,
  ⟨0x10530, "aCAUCASIAN ALBANIAN ! ALTdBETdGIMdDATdEBdZARLdEYNdZHILdTASdCHAdYOWDdZHAdIRBdSHAdLAN
dINYAdXEYNdDYANdCARdJHOXdKARdLYITdHEYTdQAYdAORdCHOYdCHIdCYAYdMAQdQARdNOWCdDZYAYdSHAKdJAYNdONdTYAY
dFAMdDZAYdCHATdPENdGHEYSdRATdSEYKdVEYZdTIWRdSHOYdIWNdCYAWdCAYNdYAYDdPIWRdKIW"⟩,
  ⟨0x1056f, "aCAUCASIAN ALBANIAN CITATION raVITHKUQI % ! AdBBEdBEdCEdCHEdDEdDHEdEIdEdFEdGA"⟩,
  ⟨0x1057c, "aVITHKUQI % ! HAdHHAdIdIJEdJEdKAdLAdLLAdMEdNEdNJEdOdPEdQAdRE"⟩,
  ⟨0x1058c, "aVITHKUQI % ! SEdSHEdTEdTHEdUdVEdXE"⟩,
  ⟨0x10594, "aVITHKUQI % ! YdZE"⟩,
  ⟨0x10597, "aVITHKUQI & ! AdBBEdBEdCEdCHEdDEdDHEdEIdEdFEdGA"⟩,
  ⟨0x105a3, "aVITHKUQI & ! HAdHHAdIdIJEdJEdKAdLAdLLAdMEdNEdNJEdOdPEdQAdRE"⟩,
  ⟨0x105b3, "aVITHKUQI & ! SEdSHEdTEdTHEdUdVEdXE"⟩,
  ⟨0x105bb, "aVITHKUQI & ! YdZE"⟩,
  ⟨0x10600, "aLINEAR A * AB001zzzzzzzzzzdAB013dAB016zdAB020zdAB021FdAB021MdAB022dAB022FdAB022M
dAB023dAB023MdAB024dAB026zzdA028BdAB029zzdAB034dAB037zzzzdAB044zzzzzzzdAB053zzzzzzzzdAB065zz
dAB069zdAB073zdAB076zzzzzzdAB085zzdA100-102dAB118dAB120dA120BdAB122zdAB131AzdA131CdAB164dAB171
dAB180dAB188dAB191dA301zzzzzzzdA309AzzdA310zzdA313AzzdA314zzzzzzzzzzzzzzzzzzzzzzzzzzzzzzzzzzzzzzz
zzzzzzzzzzzzzzzzzzdA400-VASdA401-VASdA402-VASdA403-VASdA404-VASdA405-VASdA406-VASdA407-VAS
dA408-VASdA409-VASdA410-VASdA411-VASdA412-VASdA413-VASdA414-VASdA415-VASdA416-VASdA417-VAS
dA418-VASdA501zzzzzdA508zzzzzdA515zdA520zdA523zzzzzzzzzdA534zzzzzzzzdA545dA547zzzzzzzzzzdA559
dA563zzzdA568zzzzzzzzzzzzzzzzzzzzzdA591zdA594zzdA598dA600zzzzdA606dA608zzzzzzzzzzzzzzzzdA626zzz
dA634dA637zdA640dA642zzzzdA648zdA651zzzzzzzzzzzzz"⟩,
  ⟨0x10740, "aLINEAR A * A701 AdA702 BdA703 DdA704 EdA705 FdA706 HdA707 JdA708 KdA709 LdA709-2 L2
dA709-3 L3dA709-4 L4dA709-6 L6dA710 WdA711 XdA712 YdA713 OMEGAdA714 ABBdA715 BBdA717 DDdA726 EYYY
dA732 JE"⟩,
  ⟨0x10760, "aLINEAR A * A800zzzzzzz"⟩,
  ⟨0x10780, "aMODIFIER ! & % AAcSUPERSCRIPT TRIANGULAR COLONdHALF TRIANGULAR COLONc& AEd% B
dB $ HOOK"⟩,
  ⟨0x10787, "aMODIFIER ! & DZ DIGRAPHeDIGRAPH $ RETROFLEX HOOKgCURLdDEZH DIGRAPHdD $ TAILfHOOK
fHOOK > TAILdREVERSED EdCLOSED REVERSED OPEN EdFENG DIGRAPHdRAMS HORNd% GdG $ HOOKd% G $ HOOK
dH $ md% HdHENG $ HOOKdDOTLESS J $ m > HOOKdLS DIGRAPHdLZ DIGRAPHdL $ BELTd% L $ BELT
dL $ RETROFLEX HOOK > BELTdLEZHdLEZH $ RETROFLEX HOOKdTURNED YeY $ BELTdO $ md% OEdCLOSED OMEGAdQ
dTURNED R $ LONG LEGhLEG > RETROFLEX HOOKdR $ TAILfFISHHOOKd% RdTC DIGRAPH $ CURLdTS DIGRAPH
eDIGRAPH $ RETROFLEX HOOKdTESH DIGRAPHdT $ RETROFLEX HOOKdV $ + HOOK"⟩,
  ⟨0x107b2, "aMODIFIER ! & % YcGLOTTAL STOP $ mcREVERSED GLOTTAL STOP $ mcBILABIAL CLICK
cDENTAL CLICKcLATERAL CLICKcALVEOLAR CLICKcRETROFLEX CLICK $ RETROFLEX HOOKc& S $ CURL"⟩,
  ⟨0x10800, "aCYPRIOT SYLLABLE AcEcIcOcUcJA"⟩,
  ⟨0x10808, "aCYPRIOT SYLLABLE JO"⟩,
  ⟨0x1080a, "aCYPRIOT SYLLABLE KAcKEcKIcKOcKUcLAcLEcLIcLOcLUcMAcMEcMIcMOcMUcNAcNEcNIcNOcNUcPAcPE
cPIcPOcPUcRAcREcRIcROcRUcSAcSEcSIcSOcSUcTAcTEcTIcTOcTUcWAcWEcWIcWO"⟩,
  ⟨0x10837, "aCYPRIOT SYLLABLE XAcXE"⟩,
  ⟨0x1083c, "aCYPRIOT SYLLABLE ZA"⟩,
  ⟨0x1083f, "aCYPRIOT SYLLABLE ZOaIMPERIAL ARAMAIC ! ALEPHdBETHdGIMELdDALETHdHEdWAWdZAYINdHETH
dTETHdYODHdKAPHdLAMEDHdMEMdNUNdSAMEKHdAYINdPEdSADHEdQOPHdRESHdSHINdTAW"⟩,
  ⟨0x10857, "aIMPERIAL ARAMAIC SECTION *cNUMBER ONEdTWOd|dTENdTWENTYdONE tevdTEN v
aPALMYRENE ! ALEPHcBETHcGIMELcDALETHcHEcWAWcZAYINcHETHcTETHcYODHcKAPHcLAMEDHcMEMc= NUNcNUNcSAMEKH
cAYINcPEcSADHEcQOPHcRESHcSHINcTAWbLEFT-POINTING FLEURONbRIGHT-POINTING FLEURONbNUMBER ONEcTWOc|
cFOURcFIVEcTENcTWENTYaNABATAEAN ! = ALEPHcALEPHc= BETHcBETHcGIMELcDALETHc= HEcHEcWAWcZAYINcHETH
cTETHc= YODHcYODHc= KAPHcKAPHc= LAMEDHcLAMEDHc= MEMcMEMc= NUNcNUNcSAMEKHcAYINcPEcSADHEcQOPHcRESH
c= SHINcSHINcTAW"⟩,
  ⟨0x108a7, "aNABATAEAN NUMBER ONEcTWOc|cFOURbCRUCIFORM NUMBER FOURbNUMBER FIVEcTENcTWENTYcONE t"⟩,
  ⟨0x108e0, "aHATRAN ! ALEPHcBETHcGIMELcDALETH-RESHcHEcWAWcZAYNcHETHcTETHcYODHcKAPHcLAMEDHcMEM
cNUNcSAMEKHcAYNcPEcSADHEcQOPH"⟩,
  ⟨0x108f4, "aHATRAN ! SHINcTAW"⟩,
  ⟨0x108fb, "aHATRAN NUMBER ONEcFIVEcTENcTWENTYcONE taPHOENICIAN ! ALFcBETcGAMLcDELTcHEcWAUcZAI
cHETcTETcYODcKAFcLAMDcMEMcNUNcSEMKcAINcPEcSADEcQOFcROSHcSHINcTAUbNUMBER ONEcTENcTWENTYcONE tcTWO
c|"⟩,
  ⟨0x1091f, "aPHOENICIAN WORD SEPARATORaLYDIAN ! AzcGcDzcVcIcYcKzzzzcRcSScTzcFcQcScTTcANcENcLYcNN
cC"⟩,
  ⟨0x1093f, "aLYDIAN TRIANGULAR r"⟩,
  ⟨0x10980, "aMEROITIC HIEROGLYPHIC ! AdEdIdOdYAdWAdBAdBA-2dPAdMAdNAdNA-2dNEdNE-2dRAdRA-2dLAdKHA
dHHAdSAdSA-2dSEdKAdQAdTAdTA-2dTEdTE-2dTOdDAcn VIDJdVIDJ-2bCURSIVE ! AdEdIdOdYAdWAdBAdPAdMAdNAdNE
dRAdLAdKHAdHHAdSAdARCHAIC SAdSEdKAdQAdTAdTEdTOdDA"⟩,
  ⟨0x109bc, "aMEROITIC CURSIVE FRACTION ELEVEN TWELFTHSdONE HALFcLOGOGRAM RMTdIMNcNUMBER ONEdTWO
d|dFOURdFIVEdSIXdSEVENdEIGHTdNINEdTENdTWENTYdTHIRTYdFORTYdFIFTYdSIXTYdSEVENTY"⟩,
  ⟨0x109d2, "aMEROITIC CURSIVE NUMBER ONE tdTWO td| tdFOUR tdFIVE tdSIX tdSEVEN tdEIGHT tdNINE t
dONE vdTWO vd| vdFOUR vdFIVE vdSIX vdSEVEN vdEIGHT vdNINE vdTEN vdTWENTY vdTHIRTY vdFORTY v
dFIFTY vdSIXTY vdSEVENTY vdEIGHTY vdNINETY vdONE t vdTWO t vd| t vdFOUR t vdFIVE t vdSIX t v
dSEVEN t vdEIGHT t vdNINE t vcFRACTION ONE TWELFTHdTWO TWELFTHSd| TWELFTHSdFOUR TWELFTHS
dFIVE TWELFTHSdSIX TWELFTHSdSEVEN TWELFTHSdEIGHT TWELFTHSdNINE TWELFTHSdTEN TWELFTHS
aKHAROSHTHI ! AbVOWEL * IdUdVOCALIC R"⟩,
  ⟨0x10a05, "aKHAROSHTHI VOWEL * EdO"⟩,
  ⟨0x10a0c, "aKHAROSHTHI VOWEL LENGTH rb* : RING <cANUSVARAcVISARGAb! KAcKHAcGAcGHA"⟩,
  ⟨0x10a15, "aKHAROSHTHI ! CAcCHAcJA"⟩,
  ⟨0x10a19, "aKHAROSHTHI ! NYAcTTAcTTHAcDDAcDDHAcNNAcTAcTHAcDAcDHAcNAcPAcPHAcBAcBHAcMAcYAcRAcLA
cVAcSHAcSSAcSAcZAcHAcKKAcTTTHAcTTTAcVHA"⟩,
  ⟨0x10a38, "aKHAROSHTHI * BAR ,cCAUDAcDOT <"⟩,
  ⟨0x10a3f, "aKHAROSHTHI VIRAMAbDIGIT ONEcTWOc|cFOURbNUMBER TENcTWENTYcONE tdvbFRACTION ONE HALF"⟩,
  ⟨0x10a50, "aKHAROSHTHI PUNCTUATION DOTc& CIRCLEcCIRCLEcCRESCENT BARcMANGALAMcLOTUScDANDA
c: DANDAcLINES"⟩,
  ⟨0x10a60, "aOLD SOUTH ARABIAN ! HEeLAMEDHeHETHeMEMeQOPHeWAWeSHINeRESHeBETHeTAWeSATeKAPHeNUN
eKHETHeSADHEeSAMEKHeFEeALEFeAYNeDHADHEeGIMELeDALETHeGHAYNeTETHeZAYNeDHALETHeYODHeTHAWeTHETH
dNUMBER ONEeFIFTYdNUMERIC INDICATORbNORTH ARABIAN ! HEHeLAMeHAHeMEEMeQAFeWAWeES-2eREHeBEHeTEH
eES-1eKAFeNOONeKHAHeSADeES-3eFEHeALEFeAINeDADeGEEMeDALeGHAINeTAHeZAINeTHALeYEHeTHEHeZAH
dNUMBER ONEeTENeTWENTY"⟩,
  ⟨0x10ac0, "aMANICHAEAN ! ALEPHcBETHcBHETHcGIMELcGHIMELcDALETHcHEcWAWb* UDb! ZAYINcZHAYINcJAYIN
cJHAYINcHETHcTETHcYODHcKAPHcXAPHcKHAPHcLAMEDHcDHAMEDHcTHAMEDHcMEMcNUNcSAMEKHcAYINcAAYINcPEcFE
cSADHEcQOPHcXOPHcQHOPHcRESHcSHINcSSHINcTAWbABBREVIATION r ,d<"⟩,
  ⟨0x10aeb, "aMANICHAEAN NUMBER ONEcFIVEcTENcTWENTYcONE tbPUNCTUATION STARcFLEURON
c: DOT WITHIN DOTcDOT WITHIN DOTcDOTcTWO DOTScLINE FILLER"⟩,
  ⟨0x10b00, "aAVESTAN ! AcAAcAOcAAOcANcAANcAEcAEEcEcEEcOcOOcIcIIcUcUUcKEcXEcXYEcXVEcGEcGGEcGHEcCE
cJEcTEcTHEcDEcDHEcTTEcPEcFEcBEcBHEcNGEcNGYEcNGVEcNEcNYEcNNEcMEcHMEcYYEcYEcVEcREcLEcSEcZEcSHEcZHE
cSHYEcSSHEcHE"⟩,
  ⟨0x10b39, "aAVESTAN ABBREVIATION raTINY TWO DOTS OVER ONE DOT PUNCTUATION
a& TWO DOTS OVER ONE DOT PUNCTUATIONaLARGE TWO DOTS OVER ONE DOT PUNCTUATION
bONE DOT OVER TWO DOTS PUNCTUATIONbTWO RINGS OVER ONE RING PUNCTUATION
bONE RING OVER TWO RINGS PUNCTUATIONaINSCRIPTIONAL PARTHIAN ! ALEPHdBETHdGIMELdDALETHdHEdWAW
dZAYINdHETHdTETHdYODHdKAPHdLAMEDHdMEMdNUNdSAMEKHdAYINdPEdSADHEdQOPHdRESHdSHINdTAW"⟩,
  ⟨0x10b58, "aINSCRIPTIONAL PARTHIAN NUMBER ONEdTWOd|dFOURdTENdTWENTYdONE tevbPAHLAVI ! ALEPH
dBETHdGIMELdDALETHdHEdWAW-AYIN-RESHdZAYINdHETHdTETHdYODHdKAPHdLAMEDHdMEM-QOPHdNUNdSAMEKHdPEdSADHE
dSHINdTAW"⟩,
  ⟨0x10b78, "aINSCRIPTIONAL PAHLAVI NUMBER ONEdTWOd|dFOURdTENdTWENTYdONE tev
aPSALTER PAHLAVI ! ALEPHdBETHdGIMELdDALETHdHEdWAW-AYIN-RESHdZAYINdHETHdYODHdKAPHdLAMEDHdMEM-QOPH
dNUNdSAMEKHdPEdSADHEdSHINdTAW"⟩,
  ⟨0x10b99, "aPSALTER PAHLAVI SECTION rcTURNED SECTION rcFOUR DOTS $ CROSSfDOT"⟩,
  ⟨0x10ba9, "aPSALTER PAHLAVI NUMBER ONEdTWOd|dFOURdTENdTWENTYdONE t"⟩,
  ⟨0x10c00, "aOLD TURKIC ! ORKHON AdYENISEI AeAEdORKHON IdYENISEI IeEdORKHON OeOEdYENISEI OE
dORKHON ABdYENISEI ABdORKHON AEBdYENISEI AEBdORKHON AGdYENISEI AGdORKHON AEGdYENISEI AEG
dORKHON ADdYENISEI ADdORKHON AEDeEZdYENISEI EZdORKHON AYdYENISEI AYdORKHON AEYdYENISEI AEY
dORKHON AEKdYENISEI AEKdORKHON OEKdYENISEI OEKdORKHON ALdYENISEI ALdORKHON AELeELTeEMeANeAEN
dYENISEI AENdORKHON ENTdYENISEI ENTdORKHON ENCdYENISEI ENCdORKHON ENYdYENISEI ENYeANGdORKHON ENG
dYENISEI AENGdORKHON EPeOPeICeECdYENISEI ECdORKHON AQdYENISEI AQdORKHON IQdYENISEI IQdORKHON OQ
dYENISEI OQdORKHON ARdYENISEI ARdORKHON AEReASeAESeASHdYENISEI ASHdORKHON ESHdYENISEI ESH
dORKHON ATdYENISEI ATdORKHON AETdYENISEI AETdORKHON OTeBASH"⟩,
  ⟨0x10c80, "aOLD HUNGARIAN % ! AeAAeEBeAMBeECeENCeECSeEDe>eEeCLOSE EeEEzzeEGYeEHeIeIIeEJzeAKeUNK
eELeELYeEMzeENYeOeOOeNIKOLSBURG OEeRUDIMENTA OEeOEEeEPeEMPeEReSHORT EReESeESZeETeENTeETYeECHeUeUU
eNIKOLSBURG UEeRUDIMENTA UEeEVeEZeEZSeENT-SHAPED *eUS"⟩,
  ⟨0x10cc0, "aOLD HUNGARIAN & ! AeAAeEBeAMBeECeENCeECSeEDe>eEeCLOSE EeEEzzeEGYeEHeIeIIeEJzeAKeUNK
eELeELYeEMzeENYeOeOOeNIKOLSBURG OEeRUDIMENTA OEeOEEeEPeEMPeEReSHORT EReESeESZeETeENTeETYeECHeUeUU
eNIKOLSBURG UEeRUDIMENTA UEeEVeEZeEZSeENT-SHAPED *eUS"⟩,
  ⟨0x10cfa, "aOLD HUNGARIAN NUMBER ONEdFIVEdTENdFIFTYdONE tevaHANIFI ROHINGYA ! AdBAdPAdTAdTTAdJA
dCAdHAdKHAdFAdDAdDDAdRAdRRAdZAdSAdSHAdKAdGAdLAdMAdNAdWAdKINNA WAdYAdKINNA YAdNGAdNYAdVAcVOWEL AdI
dUdEdOcr SAKINdNA KHONNAc* HARBAHAYdTAHALAdTANAdTASSI"⟩,
  ⟨0x10d30, "aHANIFI ROHINGYA DIGIT ZEROdONEdTWOd|dFOURdFIVEdSIXdSEVENdEIGHTdNINE"⟩,
  ⟨0x10e60, "aRUMI DIGIT ONEcTWOc|cFOURcFIVEcSIXcSEVENcEIGHTcNINEbNUMBER TENcTWENTYcTHIRTYcFORTY
cFIFTYcSIXTYcSEVENTYcEIGHTYcNINETYcONE tcTWO tc| tcFOUR tcFIVE tcSIX tcSEVEN tcEIGHT tcNINE t
bFRACTION ONE HALFdQUARTERdTHIRDcTWO THIRDS"⟩,
  ⟨0x10e80, "aYEZIDI ! ELIFcBEcPEcPHEcTHEcSEcCIMcCHIMcCHHIMcHHAcXAcDALcZALcRAcRHAcZAcJAcSINcSHIN
cSADcDADcTAcZEcEYNcXHEYNcFAcVAcVA ALTERNATE (cQAFcKAFcKHAFcGAFcLAMcMIMcNUNcUMcWAWcOWcEWcHAYcYOT
cET"⟩,
  ⟨0x10eab, "aYEZIDI COMBINING HAMZA rcMADDA rbHYPHENATION r"⟩,
  ⟨0x10eb0, "aYEZIDI ! LAM $ DOT ,cYOT $ x ,"⟩,
  ⟨0x10efd, "aARABIC & LOW WORD SAKTAeQASReMADDA"⟩,
  ⟨0x10f00, "aOLD SOGDIAN ! ALEPHd= ALEPHdBETHd= BETHdGIMELdHEd= HEdWAWdZAYINdHETHdYODHdKAPH
dLAMEDHdMEMdNUNd= NUNeNUN $ ? TAILdSAMEKHdAYINdALTERNATE AYINdPEdSADHEd= SADHEeSADHE $ ? TAIL
dRESH-AYIN-DALETHdSHINdTAWd= TAWeTAW $ ? TAILcNUMBER ONEdTWOd|dFOURdFIVEdTENdTWENTYdTHIRTYdONE t
cFRACTION ONE HALFcLIGATURE AYIN-DALETH"⟩,
  ⟨0x10f30, "aSOGDIAN ! ALEPHcBETHcGIMELcHEcWAWcZAYINcHETHcYODHcKAPHcLAMEDHcMEMcNUNcSAMEKHcAYIN
cPEcSADHEcRESH-AYINcSHINcTAWcFETHcLESHbINDEPENDENT SHINbCOMBINING DOT <cTWO DOTS <cDOT ,
cTWO DOTS ,cCURVE ,d<cHOOK ,d<cLONG HOOK <cRESH <cm <bNUMBER ONEcTENcTWENTYcONE t
bPUNCTUATION TWO ? BARSeBARS $ DOTScCIRCLE $ DOTcTWO CIRCLES $ DOTScHALF CIRCLE $ DOT"⟩,
  ⟨0x10f70, "aOLD UYGHUR ! ALEPHdBETHdGIMEL-HETHdWAWdZAYINd= HETHdYODHdKAPHdLAMEDHdMEMdNUNdSAMEKH
dPEdSADHEdRESHdSHINdTAWdLESHcCOMBINING DOT ,e<dTWO DOTS ,f<cPUNCTUATION BARdTWO BARSeDOTS
dFOUR DOTS"⟩,
  ⟨0x10fb0, "aCHORASMIAN ! ALEPHc& ALEPHcBETHcGIMELcDALETHcHEcWAWcCURLED WAWcZAYINcHETHcYODHcKAPH
cLAMEDHcMEMcNUNcSAMEKHcAYINcPEcRESHcSHINcTAWbNUMBER ONEcTWOc|cFOURcTENcTWENTYcONE t"⟩,
  ⟨0x10fe0, "aELYMAIC ! ALEPHcBETHcGIMELcDALETHcHEcWAWcZAYINcHETHcTETHcYODHcKAPHcLAMEDHcMEMcNUN
cSAMEKHcAYINcPEcSADHEcQOPHcRESHcSHINcTAWbLIGATURE ZAYIN-YODH"⟩,
  ⟨0x11000, "aBRAHMI * CANDRABINDUcANUSVARAcVISARGAcJIHVAMULIYAcUPADHMANIYAb! AcAAcIcIIcUcUU
cVOCALIC RdRRdLdLLcEcAIcOcAUcKAcKHAcGAcGHAcNGAcCAcCHAcJAcJHAcNYAcTTAcTTHAcDDAcDDHAcNNAcTAcTHAcDA
cDHAcNAcPAcPHAcBAcBHAcMAcYAcRAcLAcVAcSHAcSSAcSAcHAcLLAcOLD TAMIL LLLAeRRAeNNNAbVOWEL * AA
dBHATTIPROLU AAdIdIIdUdUUdVOCALIC ReRReLeLLdEdAIdOdAUbVIRAMAbDANDAb: DANDAbPUNCTUATION DOTc: DOT
cLINEcCRESCENT BARcLOTUS"⟩,
  ⟨0x11052, "aBRAHMI NUMBER ONEcTWOc|cFOURcFIVEcSIXcSEVENcEIGHTcNINEcTENcTWENTYcTHIRTYcFORTY
cFIFTYcSIXTYcSEVENTYcEIGHTYcNINETYcONE tdvbDIGIT ZEROcONEcTWOc|cFOURcFIVEcSIXcSEVENcEIGHTcNINE
b* OLD TAMIL VIRAMAb! OLD TAMIL SHORT EfObVOWEL * OLD TAMIL SHORT EgOb! OLD TAMIL LLA"⟩,
  ⟨0x1107f, "aBRAHMI NUMBER JOINERaKAITHI * CANDRABINDUcANUSVARAcVISARGAb! AcAAcIcIIcUcUUcEcAIcO
cAUcKAcKHAcGAcGHAcNGAcCAcCHAcJAcJHAcNYAcTTAcTTHAcDDAcDDDHAcDDHAcRHAcNNAcTAcTHAcDAcDHAcNAcPAcPHA
cBAcBHAcMAcYAcRAcLAcVAcSHAcSSAcSAcHAbVOWEL * AAdIdIIdUdUUdEdAIdOdAUb* VIRAMAcNUKTAbABBREVIATION *
bENUMERATION *bNUMBER *bSECTION rb: SECTION rbDANDAb: DANDAbVOWEL * VOCALIC R"⟩,
  ⟨0x110cd, "aKAITHI NUMBER * ,"⟩,
  ⟨0x110d0, "aSORA SOMPENG ! SAHdTAHdBAHdCAHdDAHdGAHdMAHdNGAHdLAHdNAHdVAHdPAHdYAHdRAHdHAHdKAHdJAH
dNYAHdAHdEEHdIHdUHdOHdEHdMAE"⟩,
  ⟨0x110f0, "aSORA SOMPENG DIGIT ZEROdONEdTWOd|dFOURdFIVEdSIXdSEVENdEIGHTdNINE"⟩,
  ⟨0x11100, "aCHAKMA * CANDRABINDUcANUSVARAcVISARGAb! AAcIcUcEcKAAcKHAAcGAAcGHAAcNGAAcCAAcCHAA
cJAAcJHAAcNYAAcTTAAcTTHAAcDDAAcDDHAAcNNAAcTAAcTHAAcDAAcDHAAcNAAcPAAcPHAAcBAAcBHAAcMAAcYYAAcYAA
cRAAcLAAcWAAcSAAcHAAbVOWEL * AdIdIIdUdUUdEdAIdOdAUdOIbO rbAU rbVIRAMAbMAAYYAA"⟩,
  ⟨0x11136, "aCHAKMA DIGIT ZEROcONEcTWOc|cFOURcFIVEcSIXcSEVENcEIGHTcNINEbSECTION rbDANDAb: DANDA
bQUESTION rb! LHAAbVOWEL * AAdEIb! VAA"⟩,
  ⟨0x11150, "aMAHAJANI ! AcIcUcEcOcKAcKHAcGAcGHAcCAcCHAcJAcJHAcNYAcTTAcTTHAcDDAcDDHAcNNAcTAcTHA
cDAcDHAcNAcPAcPHAcBAcBHAcMAcRAcLAcVAcSAcHAcRRAb* NUKTAbABBREVIATION *bSECTION rbLIGATURE SHRI"⟩,
  ⟨0x11180, "aSHARADA * CANDRABINDUcANUSVARAcVISARGAb! AcAAcIcIIcUcUUcVOCALIC RdRRdLdLLcEcAIcOcAU
cKAcKHAcGAcGHAcNGAcCAcCHAcJAcJHAcNYAcTTAcTTHAcDDAcDDHAcNNAcTAcTHAcDAcDHAcNAcPAcPHAcBAcBHAcMAcYA
cRAcLAcLLAcVAcSHAcSSAcSAcHAbVOWEL * AAdIdIIdUdUUdVOCALIC ReRReLeLLdEdAIdOdAUb* VIRAMAcAVAGRAHA
cJIHVAMULIYAcUPADHMANIYAbOMbDANDAb: DANDAbABBREVIATION *bSEPARATORbSANDHI rb* NUKTA
bVOWEL MODIFIER rbEXTRA SHORT VOWEL rbSUTRA rbVOWEL * PRISHTHAMATRA Eb* INVERTED CANDRABINDU
bDIGIT ZEROcONEcTWOc|cFOURcFIVEcSIXcSEVENcEIGHTcNINEbEKAMb* SIDDHAMbHEADSTROKEbCONTINUATION *
bSECTION MARK-1z"⟩,
  ⟨0x111e1, "aSINHALA ARCHAIC DIGIT ONEdTWOd|dFOURdFIVEdSIXdSEVENdEIGHTdNINEcNUMBER TENdTWENTY
dTHIRTYdFORTYdFIFTYdSIXTYdSEVENTYdEIGHTYdNINETYdONE tev"⟩,
  ⟨0x11200, "aKHOJKI ! AcAAcIcUcEcAIcOcAUcKAcKHAcGAcGGAcGHAcNGAcCAcCHAcJAcJJA"⟩,
  ⟨0x11213, "aKHOJKI ! NYAcTTAcTTHAcDDAcDDHAcNNAcTAcTHAcDAcDDDAcDHAcNAcPAcPHAcBAcBBAcBHAcMAcYAcRA
cLAcVAcSAcHAcLLAbVOWEL * AAdIdIIdUdEdAIdOdAUb* ANUSVARAcVIRAMAcNUKTAcSHADDAbDANDAb: DANDA
bWORD SEPARATORbSECTION rb: SECTION rbABBREVIATION *b* SUKUN"⟩,
  ⟨0x1123f, "aKHOJKI ! QAcSHORT IbVOWEL * VOCALIC R"⟩,
  ⟨0x11280, "aMULTANI ! AcIcUcEcKAcKHAcGA"⟩,
  ⟨0x11288, "aMULTANI ! GHA"⟩,
  ⟨0x1128a, "aMULTANI ! CAcCHAcJAcJJA"⟩,
  ⟨0x1128f, "aMULTANI ! NYAcTTAcTTHAcDDAcDDDAcDDHAcNNAcTAcTHAcDAcDHAcNAcPAcPHAcBA"⟩,
  ⟨0x1129f, "aMULTANI ! BHAcMAcYAcRAcLAcVAcSAcHAcRRAcRHAbSECTION r"⟩,
  ⟨0x112b0, "aKHUDAWADI ! AcAAcIcIIcUcUUcEcAIcOcAUcKAcKHAcGAcGGAcGHAcNGAcCAcCHAcJAcJJAcJHAcNYA
cTTAcTTHAcDDAcDDDAcRRAcDDHAcNNAcTAcTHAcDAcDHAcNAcPAcPHAcBAcBBAcBHAcMAcYAcRAcLAcVAcSHAcSAcHA
b* ANUSVARAbVOWEL * AAdIdIIdUdUUdEdAIdOdAUb* NUKTAcVIRAMA"⟩,
  ⟨0x112f0, "aKHUDAWADI DIGIT ZEROcONEcTWOc|cFOURcFIVEcSIXcSEVENcEIGHTcNINE"⟩,
  ⟨0x11300, "aGRANTHA * COMBINING ANUSVARA ,cCANDRABINDUcANUSVARAcVISARGA"⟩,
  ⟨0x11305, "aGRANTHA ! AcAAcIcIIcUcUUcVOCALIC RdL"⟩,
  ⟨0x1130f, "aGRANTHA ! EEcAI"⟩,
  ⟨0x11313, "aGRANTHA ! OOcAUcKAcKHAcGAcGHAcNGAcCAcCHAcJAcJHAcNYAcTTAcTTHAcDDAcDDHAcNNAcTAcTHAcDA
cDHAcNA"⟩,
  ⟨0x1132a, "aGRANTHA ! PAcPHAcBAcBHAcMAcYAcRA"⟩,
  ⟨0x11332, "aGRANTHA ! LAcLLA"⟩,
  ⟨0x11335, "aGRANTHA ! VAcSHAcSSAcSAcHA"⟩,
  ⟨0x1133b, "aCOMBINING BINDU <aGRANTHA * NUKTAcAVAGRAHAbVOWEL * AAdIdIIdUdUUdVOCALIC ReRR"⟩,
  ⟨0x11347, "aGRANTHA VOWEL * EEdAI"⟩,
  ⟨0x1134b, "aGRANTHA VOWEL * OOdAUb* VIRAMA"⟩,
  ⟨0x11350, "aGRANTHA OM"⟩,
  ⟨0x11357, "aGRANTHA AU LENGTH r"⟩,
  ⟨0x1135d, "aGRANTHA * PLUTAb! VEDIC ANUSVARAd: ANUSVARAcVOCALIC RRdLLbVOWEL * VOCALIC LeLL"⟩,
  ⟨0x11366, "aCOMBINING GRANTHA DIGIT ZEROdONEdTWOd|dFOURdFIVEdSIX"⟩,
  ⟨0x11370, "aCOMBINING GRANTHA ! AdKAdNAdVIdPA"⟩,
  ⟨0x11400, "aNEWA ! AcAAcIcIIcUcUUcVOCALIC RdRRdLdLLcEcAIcOcAUcKAcKHAcGAcGHAcNGAcNGHAcCAcCHAcJA
cJHAcNYAcNYHAcTTAcTTHAcDDAcDDHAcNNAcTAcTHAcDAcDHAcNAcNHAcPAcPHAcBAcBHAcMAcMHAcYAcRAcRHAcLAcLHAcWA
cSHAcSSAcSAcHAbVOWEL * AAdIdIIdUdUUdVOCALIC ReRReLeLLdEdAIdOdAUb* VIRAMAcCANDRABINDUcANUSVARA
cVISARGAcNUKTAcAVAGRAHAc= ANUSVARAbOMbSIDDHIbDANDAb: DANDAbCOMMAbGAP FILLERbABBREVIATION *
bDIGIT ZEROcONEcTWOc|cFOURcFIVEcSIXcSEVENcEIGHTcNINEb: COMMAbPLACEHOLDER r"⟩,
  ⟨0x1145d, "aNEWA INSERTION *bSANDHI rb! VEDIC ANUSVARAb* JIHVAMULIYAcUPADHMANIYA"⟩,
  ⟨0x11480, "aTIRHUTA ANJIb! AcAAcIcIIcUcUUcVOCALIC RdRRdLdLLcEcAIcOcAUcKAcKHAcGAcGHAcNGAcCAcCHA
cJAcJHAcNYAcTTAcTTHAcDDAcDDHAcNNAcTAcTHAcDAcDHAcNAcPAcPHAcBAcBHAcMAcYAcRAcLAcVAcSHAcSSAcSAcHA
bVOWEL * AAdIdIIdUdUUdVOCALIC ReRReLeLLdEdSHORT EdAIdOdSHORT OdAUb* CANDRABINDUcANUSVARAcVISARGA
cVIRAMAcNUKTAcAVAGRAHAbGVANGbABBREVIATION *bOM"⟩,
  ⟨0x114d0, "aTIRHUTA DIGIT ZEROcONEcTWOc|cFOURcFIVEcSIXcSEVENcEIGHTcNINE"⟩,
  ⟨0x11580, "aSIDDHAM ! AcAAcIcIIcUcUUcVOCALIC RdRRdLdLLcEcAIcOcAUcKAcKHAcGAcGHAcNGAcCAcCHAcJA
cJHAcNYAcTTAcTTHAcDDAcDDHAcNNAcTAcTHAcDAcDHAcNAcPAcPHAcBAcBHAcMAcYAcRAcLAcVAcSHAcSSAcSAcHA
bVOWEL * AAdIdIIdUdUUdVOCALIC ReRR"⟩,
  ⟨0x115b8, "aSIDDHAM VOWEL * EdAIdOdAUb* CANDRABINDUcANUSVARAcVISARGAcVIRAMAcNUKTAcSIDDHAMbDANDA
b: DANDAbSEPARATOR DOTcBARbREPETITION MARK-1zzbEND OF TEXT r
bSECTION r $ TRIDENT > U-SHAPED ORNAMENTSgDOTTED CRESCENTSeRAYS > DOTTED CRESCENTSh: CRESCENTS
hTRIPLE CRESCENTSd: RINGeRING $ RAYSd$ : CRESCENTSeTRIPLE CRESCENTSeQUADRUPLE CRESCENTS
eSEPTUPLE CRESCENTSeCIRCLES > RAYSgTWO ENCLOSURESgFOUR ENCLOSURESb! THREE-CIRCLE ALTERNATE I
cTWO-CIRCLE ALTERNATE IeIIcALTERNATE UbVOWEL * ALTERNATE UeUU"⟩,
  ⟨0x11600, "aMODI ! AcAAcIcIIcUcUUcVOCALIC RdRRdLdLLcEcAIcOcAUcKAcKHAcGAcGHAcNGAcCAcCHAcJAcJHA
cNYAcTTAcTTHAcDDAcDDHAcNNAcTAcTHAcDAcDHAcNAcPAcPHAcBAcBHAcMAcYAcRAcLAcVAcSHAcSSAcSAcHAcLLA
bVOWEL * AAdIdIIdUdUUdVOCALIC ReRReLeLLdEdAIdOdAUb* ANUSVARAcVISARGAcVIRAMAcARDHACANDRAbDANDA
b: DANDAbABBREVIATION *b* HUVA"⟩,
  ⟨0x11650, "aMODI DIGIT ZEROcONEcTWOc|cFOURcFIVEcSIXcSEVENcEIGHTcNINE"⟩,
  ⟨0x11660, "aMONGOLIAN BIRGA $ ORNAMENTbROTATED BIRGAb: BIRGA $ ORNAMENTbTRIPLE BIRGA $ ORNAMENT
bBIRGA $ : ORNAMENTbROTATED BIRGA $ ORNAMENTe: ORNAMENTbINVERTED BIRGAcBIRGA $ : ORNAMENT
bSWIRL BIRGAcBIRGA $ ORNAMENTe: ORNAMENTbTURNED SWIRL BIRGA $ : ORNAMENT"⟩,
  ⟨0x11680, "aTAKRI ! AcAAcIcIIcUcUUcEcAIcOcAUcKAcKHAcGAcGHAcNGAcCAcCHAcJAcJHAcNYAcTTAcTTHAcDDA
cDDHAcNNAcTAcTHAcDAcDHAcNAcPAcPHAcBAcBHAcMAcYAcRAcLAcVAcSHAcSAcHAcRRAb* ANUSVARAcVISARGA
bVOWEL * AAdIdIIdUdUUdEdAIdOdAUb* VIRAMAcNUKTAb! ARCHAIC KHAbABBREVIATION *"⟩,
  ⟨0x116c0, "aTAKRI DIGIT ZEROcONEcTWOc|cFOURcFIVEcSIXcSEVENcEIGHTcNINE"⟩,
  ⟨0x11700, "aAHOM ! KAcKHAcNGAcNAcTAcALTERNATE TAcPAcPHAcBAcMAcJAcCHAcTHAcRAcLAcSAcNYAcHAcAcDA
cDHAcGAcALTERNATE GAcGHAcBHAcJHAcALTERNATE BA"⟩,
  ⟨0x1171d, "aAHOM CONSONANT * MEDIAL LAeRAeLIGATING RAbVOWEL * AdAAdIdIIdUdUUdEdAWdOdAIdAM
b* KILLER"⟩,
  ⟨0x11730, "aAHOM DIGIT ZEROcONEcTWOc|cFOURcFIVEcSIXcSEVENcEIGHTcNINEbNUMBER TENcTWENTY
b* & SECTIONcSECTIONcRULAIbn VIb! CAcTTAcTTHAcDDAcDDHAcNNAcLLA"⟩,
  ⟨0x11800, "aDOGRA ! AcAAcIcIIcUcUUcEcAIcOcAUcKAcKHAcGAcGHAcNGAcCAcCHAcJAcJHAcNYAcTTAcTTHAcDDA
cDDHAcNNAcTAcTHAcDAcDHAcNAcPAcPHAcBAcBHAcMAcYAcRAcLAcVAcSHAcSSAcSAcHAcRRAbVOWEL * AAdIdIIdUdUU
dVOCALIC ReRRdEdAIdOdAUb* ANUSVARAcVISARGAcVIRAMAcNUKTAbABBREVIATION *"⟩,
  ⟨0x118a0, "aWARANG CITI % ! NGAAeAeWIeYUeYAeYOeIIeUUeEeOeANGeGAeKOeENYeYUJeUCeENNeODDeTTEeNUNG
eDAeATeAMeBUePUeHIYOeHOLOeHORReHAReSSUUeSIIeVIYOc& ! NGAAeAeWIeYUeYAeYOeIIeUUeEeOeANGeGAeKOeENY
eYUJeUCeENNeODDeTTEeNUNGeDAeATeAMeBUePUeHIYOeHOLOeHORReHAReSSUUeSIIeVIYOcDIGIT ZEROdONEdTWOd|
dFOURdFIVEdSIXdSEVENdEIGHTdNINEcNUMBER TENdTWENTYdTHIRTYdFORTYdFIFTYdSIXTYdSEVENTYdEIGHTYdNINETY"⟩,
  ⟨0x118ff, "aWARANG CITI OMaDIVES AKURU ! AdAAdIdIIdUdUUdE"⟩,
  ⟨0x11909, "aDIVES AKURU ! O"⟩,
  ⟨0x1190c, "aDIVES AKURU ! KAdKHAdGAdGHAdNGAdCAdCHAdJA"⟩,
  ⟨0x11915, "aDIVES AKURU ! NYAdTTA"⟩,
  ⟨0x11918, "aDIVES AKURU ! DDAdDDHAdNNAdTAdTHAdDAdDHAdNAdPAdPHAdBAdBHAdMAdYAdYYAdRAdLAdVAdSHA
dSSAdSAdHAdLLAdZAcVOWEL * AAeIeIIeUeUUeE"⟩,
  ⟨0x11937, "aDIVES AKURU VOWEL * AIeO"⟩,
  ⟨0x1193b, "aDIVES AKURU * ANUSVARAdCANDRABINDUdHALANTAcVIRAMAcPREFIXED NASAL *cMEDIAL YAc_ RA
cMEDIAL RAc* NUKTAc: DANDAcGAP FILLERcEND OF TEXT r"⟩,
  ⟨0x11950, "aDIVES AKURU DIGIT ZEROdONEdTWOd|dFOURdFIVEdSIXdSEVENdEIGHTdNINE"⟩,
  ⟨0x119a0, "aNANDINAGARI ! AcAAcIcIIcUcUUcVOCALIC RdRR"⟩,
  ⟨0x119aa, "aNANDINAGARI ! EcAIcOcAUcKAcKHAcGAcGHAcNGAcCAcCHAcJAcJHAcNYAcTTAcTTHAcDDAcDDHAcNNA
cTAcTHAcDAcDHAcNAcPAcPHAcBAcBHAcMAcYAcRAcLAcVAcSHAcSSAcSAcHAcLLAcRRAbVOWEL * AAdIdIIdUdUU
dVOCALIC ReRR"⟩,
  ⟨0x119da, "aNANDINAGARI VOWEL * EdAIdOdAUb* ANUSVARAcVISARGAcVIRAMAcAVAGRAHAcSIDDHAMbHEADSTROKE
bVOWEL * PRISHTHAMATRA E"⟩,
  ⟨0x11a00, "aZANABAZAR SQUARE ! AcVOWEL * IeUEeUeEeOEeOeAIeAUeREVERSED IdLENGTH rc! KAdKHAdGA
dGHAdNGAdCAdCHAdJAdNYAdTTAdTTHAdDDAdDDHAdNNAdTAdTHAdDAdDHAdNAdPAdPHAdBAdBHAdMAdTSAdTSHAdDZAdDZHA
dZHAdZAd-AdYAdRAdLAdVAdSHAdSSAdSAdHAdKSSAc= CONSONANT rc* VIRAMAdCANDRABINDU
dCANDRABINDU $ ORNAMENTdCANDRA $ ORNAMENTdANUSVARAdVISARGAcCLUSTER-INITIAL ! RA
cCLUSTER-FINAL ! YAeRAeLAeVAc_ HEAD rcCLOSING HEAD rcr TSHEGdSHADd: SHADdLONG TSHEG
c_ DOUBLE-LINED HEAD rcCLOSING DOUBLE-LINED HEAD rcSUBJOINER"⟩,
  ⟨0x11a50, "aSOYOMBO ! AbVOWEL * IdUEdUdEdOdOEdAIdAUdVOCALIC ReLcLENGTH rb! KAcKHAcGAcGHAcNGAcCA
cCHAcJAcJHAcNYAcTTAcTTHAcDDAcDDHAcNNAcTAcTHAcDAcDHAcNAcPAcPHAcBAcBHAcMAcTSAcTSHAcDZAcZHAcZAc-AcYA
cRAcLAcVAcSHAcSSAcSAcHAcKSSAb* JIHVAMULIYAcUPADHMANIYAbCLUSTER-INITIAL ! RAdLAdSHAdSA
b= CONSONANT * GeKeNGeDeNeBeMeReLeSHeSe-Ab* ANUSVARAcVISARGAbGEMINATION rbSUBJOINERbr TSHEGcSHAD
c: SHADcPLUTAbHEAD r $ MOON > SUN > TRIPLE FLAMEiFLAMEgSUNbTERMINAL MARK-1z"⟩,
  ⟨0x11ab0, "aCANADIAN SYLLABICS NATTILIK HIdHIIdHOdHOOdHAdHAAdSHRIdSHRIIdSHROdSHROOdSHRAdSHRAA
cSPEcSPIcSPOcSPAaPAU CIN HAU ! PAeKAeLAeMAeDAeZAeVAeNGAeHAeGAeKHAeSAeBAeCAeTAeTHAeNAePHAeRAeFA
eCHAeAeEeIeOeUeUAeIAe= PfKfTfMzfLfWfNGfYdRISING TONE LONGeTONEdSANDHI GLOTTAL STOP
dRISING TONE LONG =f=dSANDHI GLOTTAL STOP =eTONE LONGeTONEeTONE LONG =f=dMID-LEVEL TONE
dGLOTTAL STOP VARIANTdMID-LEVEL TONE LONG =f=dLOW-FALLING TONE LONGeTONEdGLOTTAL STOP
dLOW-FALLING TONE LONG =f=dGLOTTAL STOP ="⟩,
  ⟨0x11b00, "aDEVANAGARI HEAD rcr $ HEADSTROKEb* BHALEcBHALE $ HOOKcEXTENDED BHALEdBHALE $ HOOK
cWESTERN FIVE-LIKE BHALEdNINE-LIKE BHALEcREVERSED NINE-LIKE BHALEcMINDU"⟩,
  ⟨0x11c00, "aBHAIKSUKI ! AcAAcIcIIcUcUUcVOCALIC RdRRdL"⟩,
  ⟨0x11c0a, "aBHAIKSUKI ! EcAIcOcAUcKAcKHAcGAcGHAcNGAcCAcCHAcJAcJHAcNYAcTTAcTTHAcDDAcDDHAcNNAcTA
cTHAcDAcDHAcNAcPAcPHAcBAcBHAcMAcYAcRAcLAcVAcSHAcSSAcSAcHAbVOWEL * AAdIdIIdUdUUdVOCALIC ReRReL"⟩,
  ⟨0x11c38, "aBHAIKSUKI VOWEL * EdAIdOdAUb* CANDRABINDUcANUSVARAcVISARGAcVIRAMAcAVAGRAHAbDANDA
b: DANDAbWORD SEPARATORbGAP FILLER-1z"⟩,
  ⟨0x11c50, "aBHAIKSUKI DIGIT ZEROcONEcTWOc|cFOURcFIVEcSIXcSEVENcEIGHTcNINEbNUMBER ONEcTWOc|cFOUR
cFIVEcSIXcSEVENcEIGHTcNINEcTENcTWENTYcTHIRTYcFORTYcFIFTYcSIXTYcSEVENTYcEIGHTYcNINETY
bHUNDREDS UNIT r"⟩,
  ⟨0x11c70, "aMARCHEN HEAD rbr SHADb! KAcKHAcGAcNGAcCAcCHAcJAcNYAcTAcTHAcDAcNAcPAcPHAcBAcMAcTSA
cTSHAcDZAcWAcZHAcZAc-AcYAcRAcLAcSHAcSAcHAcA"⟩,
  ⟨0x11c92, "aMARCHEN SUBJOINED ! KAdKHAdGAdNGAdCAdCHAdJAdNYAdTAdTHAdDAdNAdPAdPHAdBAdMAdTSAdTSHA
dDZAdWAdZHAdZA"⟩,
  ⟨0x11ca9, "aMARCHEN SUBJOINED ! YAdRAdLAdSHAdSAdHAdAbVOWEL * AAdIdUdEdOb* ANUSVARAcCANDRABINDU"⟩,
  ⟨0x11d00, "aMASARAM GONDI ! AdAAdIdIIdUdUUdE"⟩,
  ⟨0x11d08, "aMASARAM GONDI ! AIdO"⟩,
  ⟨0x11d0b, "aMASARAM GONDI ! AUdKAdKHAdGAdGHAdNGAdCAdCHAdJAdJHAdNYAdTTAdTTHAdDDAdDDHAdNNAdTAdTHA
dDAdDHAdNAdPAdPHAdBAdBHAdMAdYAdRAdLAdVAdSHAdSSAdSAdHAdLLAdKSSAdJNYAdTRAcVOWEL * AAeIeIIeUeUU
eVOCALIC R"⟩,
  ⟨0x11d3a, "aMASARAM GONDI VOWEL * E"⟩,
  ⟨0x11d3c, "aMASARAM GONDI VOWEL * AIeO"⟩,
  ⟨0x11d3f, "aMASARAM GONDI VOWEL * AUc* ANUSVARAdVISARGAdNUKTAdCANDRAdHALANTAcVIRAMAcREPHA
cRA-KARA"⟩,
  ⟨0x11d50, "aMASARAM GONDI DIGIT ZEROdONEdTWOd|dFOURdFIVEdSIXdSEVENdEIGHTdNINE"⟩,
  ⟨0x11d60, "aGUNJALA GONDI ! AdAAdIdIIdUdUU"⟩,
  ⟨0x11d67, "aGUNJALA GONDI ! EEdAI"⟩,
  ⟨0x11d6a, "aGUNJALA GONDI ! OOdAUdYAdVAdBAdBHAdMAdKAdKHAdTAdTHAdLAdGAdGHAdDAdDHAdNAdCAdCHAdTTA
dTTHAdLLAdJAdJHAdDDAdDDHAdNGAdPAdPHAdHAdRAdSAcVOWEL * AAeIeIIeUeUU"⟩,
  ⟨0x11d90, "aGUNJALA GONDI VOWEL * EEeAI"⟩,
  ⟨0x11d93, "aGUNJALA GONDI VOWEL * OOeAUc* ANUSVARAdVISARGAcVIRAMAcOM"⟩,
  ⟨0x11da0, "aGUNJALA GONDI DIGIT ZEROdONEdTWOd|dFOURdFIVEdSIXdSEVENdEIGHTdNINE"⟩,
  ⟨0x11ee0, "aMAKASAR ! KAcGAcNGAcPAcBAcMAcTAcDAcNAcCAcJAcNYAcYAcRAcLAcVAcSAcAbANGKAbVOWEL * IdU
dEdObPASSIMBANGbEND OF SECTION"⟩,
  ⟨0x11f00, "aKAWI * CANDRABINDUcANUSVARAcREPHAcVISARGAb! AcAAcIcIIcUcUUcVOCALIC RdRRdLdLLcEcAIcO"⟩,
  ⟨0x11f12, "aKAWI ! KAcKHAcGAcGHAcNGAcCAcCHAcJAcJHAcNYAcTTAcTTHAcDDAcDDHAcNNAcTAcTHAcDAcDHAcNA
cPAcPHAcBAcBHAcMAcYAcRAcLAcWAcSHAcSSAcSAcHAcJNYAbVOWEL * AAdALTERNATE AAdIdIIdUdUUdVOCALIC R"⟩,
  ⟨0x11f3e, "aKAWI VOWEL * EdAIdEUb* KILLERbCONJOINERbDANDAb: DANDAbPUNCTUATION SECTION MARKER
cALTERNATE SECTION MARKERcFLOWERcSPACE FILLERcDOTc: DOTcTRIPLE DOTcCIRCLEcFILLED CIRCLEcSPIRAL
cCLOSING SPIRALbDIGIT ZEROcONEcTWOc|cFOURcFIVEcSIXcSEVENcEIGHTcNINE"⟩,
  ⟨0x11fb0, "aLISU ! YHA"⟩,
  ⟨0x11fc0, "aTAMIL FRACTION ONE THREE-HUNDRED-AND-TWENTIETHdONE-HUNDRED-AND-SIXTIETHdEIGHTIETH
dSIXTY-FOURTHdFORTIETHdTHIRTY-SECONDc| EIGHTIETHSdSIXTY-FOURTHScONE TWENTIETHdSIXTEENTH-1zdTENTH
dEIGHTHc| TWENTIETHSdSIXTEENTHScONE FIFTHdQUARTERdHALF-1zc| QUARTERScDOWNSCALING FACTOR KIIZH
b* NELcCEVITUcAAZHAAKKUcUZHAKKUcMUUVUZHAKKUcKURUNIcPATHAKKUcMUKKURUNIcKAACUcPANAMcPONcVARAAKAN
cPAARAMcKUZHIcVELIbWET CULTIVATION *bDRY CULTIVATION *bLAND *bSALT PAN *bTRADITIONAL CREDIT *
cNUMBER *bCURRENT *b> ODD *bSPENT *bTOTAL *bIN POSSESSION *bSTARTING FROM *b* MUTHALIYA
cVAKAIYARAA"⟩,
  ⟨0x11fff, "aTAMIL PUNCTUATION END OF TEXTaCUNEIFORM * AcA TIMES AeBADeGAN2 TENUeHAeIGI
eLAGAR GUNUeMUSHeSAGcA2cABcAB TIMES ASH2eDUN3 GUNUeGALeGAN2 TENUeHAeIGI GUNUeIMINeLAGABeSHESH
eU PLUS U PLUS UdGUNUcAB2cAB2 TIMES BALAGeGAN2 TENUeME PLUS ENeSHA3eTAK4cADcAKcAK TIMES ERIN2
eSHITA PLUS GISHcALcAL TIMES ALeDIM2eGISHeHAeKAD3eKIeSHEeUSHcALANcALEPHcAMARcAMAR TIMES SHEcAN
cAN OVER ANd| TIMESdPLUS NAGA OPPOSING AN PLUS NAGAfSQUAREDcANSHEcAPINcARADcARAD TIMES KURcARKAB
cASAL2cASHcASH ZIDA TENUdKABA TENUdOVER ASH TUG2 OVER TUG2 TUG2 OVER TUG2 PAPfOVER ASH
gASH CROSSING ASH OVER ASH OVER ASHcASH2cASHGABcBAcBADcBAG3cBAHAR2cBALcBAL OVER BALcBALAGcBAR
cBARA2cBIcBI TIMES AeGAReIGI GUNUcBUcBU OVER BU ABfUNdCROSSING BUcBULUGcBULUG OVER BULUGcBURcBUR2
cDAcDAGcDAG KISIM5 TIMES A PLUS MASHfAMARfBALAGfBIfGAfGA PLUS MASHfGIfGIR2fGUDfHAfIRfIR PLUS LU
fKAKfLAfLUfLU PLUS MASH2fLUMfNEfPAP PLUS PAPfSIfTAK4fU2 PLUS GIR2fUSHcDAMcDARcDARA3zcDIcDIBcDIM
cDIM TIMES SHEcDIM2cDINcDIN KASKAL U GUNU DISHcDISHcDUcDU OVER DUdGUNUdSHESHIGcDUBcDUB TIMES ESH2
cDUB2cDUGcDUGUDcDUHcDUNcDUN3cDUN3 GUNUdGUNU GUNUcDUN4cDUR2cEcE TIMES PAPdOVER E NUN OVER NUNcE2
cE2 TIMES A PLUS HA PLUS DAeGAReMIeSALeSHEeUcEDINcEGIRcELcENcEN TIMES GAN2eGAN2 TENUeME
dCROSSING ENdOPPOSING ENdSQUAREDcERENcERIN2cESH2cEZENcEZEN TIMES AeA PLUS LALgLAL TIMES LALeAN
eBADeDUN3 GUNUfGUNU GUNUeHAeHA GUNUeIGI GUNUeKASKALeKASKAL SQUAREDeKU3eLAeLAL TIMES LALeLIeLUeU2
eUDcGAcGA GUNUcGA2cGA2 TIMES A PLUS DA PLUS HAgHAgIGIeAB2 TENU PLUS TABeANeASHeASH2 PLUS GALeBAD
eBAR PLUS RAeBUReBUR PLUS RAeDAeDIeDIM TIMES SHEeDUBeELeEL PLUS LAeENeEN TIMES GAN2 TENU
eGAN2 TENUeGAReGIeGI4eGI4 PLUS AeGIR2 PLUS SUeHA PLUS LU PLUS ESH2eHALeHAL PLUS LAeHI PLUS LI
eHUB2eIGI GUNUeISH PLUS HU PLUS ASHeKAKeKASKALeKIDeKID PLUS LALeKU3 PLUS ANeLAeME PLUS ENeMIeNUN
eNUN OVER NUNePAeSALeSAReSHEeSHE PLUS TUReSHIDeSUMeTAK4eUeUDeUD PLUS DUdOVER GA2cGABA
cGABA CROSSING GABAcGADcGAD OVER GAD GAR OVER GARcGALcGAL GAD OVER GAD GAR OVER GARcGALAMcGAMz
cGAN2cGAN2 TENUdOVER GAN2dCROSSING GAN2cGARcGAR3cGASHANcGESHTINcGESHTIN TIMES KURcGIcGI TIMES EeU
dCROSSING GIcGI4cGI4 OVER GI4dCROSSING GI4cGIDIMcGIR2cGIR2 GUNUcGIR3cGIR3 TIMES A PLUS IGI
eGAN2 TENUeIGIeLU PLUS IGIePAcGISALcGISHcGISH CROSSING GISHdTIMES BADeTAK4dTENUcGUcGU CROSSING GU
cGU2cGU2 TIMES KAKeKAK TIMES IGI GUNUeNUNeSAL PLUS TUG2dGUNUcGUDcGUD TIMES A PLUS KUReKUR
dOVER GUD LUGALcGULzcGUM TIMES SHEcGURcGUR7cGURUNcGURUSHcHAcHA TENUdGUNUcHALcHIcHI TIMES ASHeASH2
eBADeDISHeGADeKINeNUNeSHEeUcHUcHUB2cHUB2 TIMES ANeHALeKASKALeLISHeUDcHUL2cIcI AcIBcIDIM
cIDIM OVER IDIM BURfSQUAREDcIGcIGIcIGI DIBdRIdOVER IGI SHIR OVER SHIR UD OVER UDdGUNUcIL
cIL TIMES GAN2 TENUcIL2cIMcIM TIMES TAK4dCROSSING IMdOPPOSING IMdSQUAREDcIMINcINcIRcISHcKA
cKA TIMES AeADeAD PLUS KU3eASH2eBADeBALAGeBAReBIeERIN2eESH2eGAeGALeGAN2 TENUeGAR
eGAR PLUS SHA3 PLUS AeGIeGIR2eGISH PLUS SARfCROSSING GISHeGUeGUR7eIGIeIMeKAKeKIeKIDeLIeLUeME
eME PLUS DUgGIgTEeMIeMI PLUS NUNUZeNEeNUNePIeRUeSAeSAReSHAeSHEeSHIDeSHUeSIGeSUHUReTAReUeU2eUD
eUMUM TIMES PAeUSHeZIcKA2cKA2 CROSSING KA2cKABcKAD2zzzcKAD5 OVER KAD5cKAKcKAK TIMES IGI GUNUcKAL
cKAL TIMES BADdCROSSING KALcKAM2cKAM4cKASKALcKASKAL LAGAB TIMES U OVER LAGAB TIMES U
dOVER KASKAL LAGAB TIMES U OVER LAGAB TIMES UcKESH2cKIcKI TIMES BADeUeUDcKIDcKINcKISALcKISH
cKISIM5cKISIM5 OVER KISIM5cKUcKU OVER HI TIMES ASH2 KU OVER HI TIMES ASH2cKU3zcKU4 VARIANT (cKU7
cKULcKUL GUNUcKUNcKURcKUR OPPOSING KURcKUSHU2cKWU318cLAcLAGABcLAGAB TIMES AeA PLUS DA PLUS HAgGAR
gLALeALeANeASH ZIDA TENUeBADeBIeDAReENeGAeGAReGUDeGUD PLUS GUDeHAeHALeHI TIMES NUNeIGI GUNUeIM
eIM PLUS HAgLUeKIeKINeKU3eKULeKUL PLUS HI PLUS AeLAGABeLISHeLUeLULeMEeME PLUS ENeMUSHeNE
eSHE PLUS SUMeSHITA PLUS GISH PLUS ERIN2hTENUeSHU2eSHU2 PLUS SHU2eSUMeTAGeTAK4
eTE PLUS A PLUS SU PLUS NAeUeU PLUS AgU PLUS UeU2 PLUS ASHeUDeUSHdSQUAREDcLAGARcLAGAR TIMES SHE
eSHE PLUS SUMdGUNUdGUNU OVER LAGAR GUNU SHEcLAHSHUcLALcLAL TIMES LALcLAMcLAM TIMES KUR
eKUR PLUS RUcLIcLILcLIMMU2cLISHcLUcLU TIMES BADcLU2cLU2 TIMES ALeBADeESH2eESH2 TENUeGAN2 TENU
eHI TIMES BADeIMeKAD2zeKAD3 PLUS ASHeKIeLA PLUS ASHeLAGABeME PLUS ENeNEeNUeSI PLUS ASH
eSIK2 PLUS BUeTUG2dTENUdCROSSING LU2dOPPOSING LU2dSQUAREDdSHESHIGcLU3cLUGALcLUGAL OVER LUGAL
dOPPOSING LUGALdSHESHIGcLUHcLULzcLUM OVER LUMeLUM GAR OVER GARcMAcMA TIMES TAK4dGUNUcMA2cMAHcMAR
cMASHcMASH2cMEcMEScMIcMINcMUcMU OVER MUcMUGcMUG GUNUcMUNSUBcMURGU2cMUSHcMUSH TIMES AeKUReZA
dOVER MUSHeMUSH TIMES A PLUS NAdCROSSING MUSHcMUSH3cMUSH3 TIMES AeA PLUS DIeDIdGUNUcNAcNA2cNAGA
cNAGA INVERTEDdTIMES SHU TENUdOPPOSING NAGAcNAGARcNAM NUTILLUcNAMcNAM2cNEcNE TIMES AeUDdSHESHIG
cNIcNI TIMES EcNI2cNIMcNIM TIMES GAN2 TENUeGAR PLUS GAN2 TENUcNINDA2cNINDA2 TIMES ANeASH
eASH PLUS ASHeGUDeME PLUS GAN2 TENUeNEeNUNeSHEeSHE PLUS A ANgASHgASH PLUS ASHeU2 PLUS ASHeUSH
cNISAGcNUcNU11cNUNcNUN LAGAR TIMES GARfMASHfSALfSAL OVER NUN LAGAR TIMES SALfUSHdTENUdOVER NUN
dCROSSING NUNeNUN LAGAR OVER LAGARcNUNUZcNUNUZ AB2 TIMES ASHGABfBIfDUGfGUDfIGI GUNUfKAD3fLAfNE
fSILA3fU2dKISIM5 TIMES BIfBI UcPAcPADcPANcPAPcPESH2cPIcPI TIMES AeABeBIeBUeEeIeIBeUeU2
dCROSSING PIcPIRIGcPIRIG TIMES KALeUDeZAdOPPOSING PIRIGcRAcRABcRIcRUcSAcSAG NUTILLUcSAG
cSAG TIMES AeDUeDUBeHAeKAKeKUReLUMeMIeNUNeSALeSHIDeTABeU2eUBeUMeUReUSHdOVER SAGdGUNUcSAL
cSAL LAGAB TIMES ASH2cSANGA2cSARcSHAcSHA3cSHA3 TIMES AeBADeGISHeNEeSHU2eTUReUeU PLUS AcSHA6cSHAB6
cSHAR2cSHEcSHE HUdOVER SHE GAD OVER GAD GAR OVER GARfTAB OVER TAB GAR OVER GARcSHEG9cSHENcSHESH
cSHESH2cSHESHLAMcSHIDcSHID TIMES AeIMcSHIMcSHIM TIMES AeBALeBULUGeDINeGAReIGIeIGI GUNUeKUSHU2eLUL
eMUGeSALcSHINIGcSHIRcSHIR TENUdOVER SHIR BUR OVER BURcSHITAcSHUcSHU OVER INVERTED SHUcSHU2cSHUBUR
cSIcSI GUNUcSIGcSIG4cSIG4 OVER SIG4 SHU2cSIK2cSILA3cSUcSU OVER SUcSUDcSUD2cSUHURcSUMcSUMASHcSUR
cSUR9cTAcTA ASTERISKdTIMES HIeMIdGUNUcTABcTAB OVER TAB NI OVER NI DISH OVER DISHdSQUAREDcTAG
cTAG TIMES BIeGUDeSHEeSHUeTUG2eUDcTAK4cTARcTEcTE GUNUcTIcTI TENUcTILcTIRcTIR TIMES TAK4dOVER TIR
eTIR GAD OVER GAD GAR OVER GARcTUcTUG2cTUKcTUMcTURcTUR OVER TUR ZA OVER ZAcUcU GUDdU U
dOVER U PA OVER PA GAR OVER GARfSUR OVER SURfU REVERSED OVER U REVERSEDcU2cUBcUDcUD KUSHU2
dTIMES BADeMIeU PLUS U PLUS UiU GUNUdGUNUdSHESHIGdSHESHIG TIMES BADcUDUGcUMcUM TIMES LAGAB
eME PLUS DAeSHA3eUcUMBINcUMUMcUMUM TIMES KASKALePAcUNcUN GUNUcURcUR CROSSING URdSHESHIGcUR2
cUR2 TIMES A PLUS HAgNAeALeHAeNUNeU2eU2 PLUS ASHgBIcUR4cURIcURI3cURUcURU TIMES AeASHGABeBAReDUN
eGAeGALeGAN2 TENUeGAReGUeHAeIGIeIMeISHeKIeLUMeMINePAeSHEeSIG4eTUeU PLUS GUDeUDeURUDAcURUDA
cURUDA TIMES UcUSHcUSH TIMES AeKUeKUReTAK4cUSHXcUSH2cUSHUMXcUTUKIcUZ3cUZ3 TIMES KASKALcUZUcZA
cZA TENUdSQUARED TIMES KURcZAGcZAMXcZE2cZIcZI OVER ZIcZI3cZIBcZIB KABA TENUcZIGcZIZ2cZUcZU5
cZU5 TIMES AcZUBURcZUMcKAP ELAMITEcAB TIMES NUNcAB2 TIMES AcAMAR TIMES KUG
cDAG KISIM5 TIMES U2 PLUS MASHcDAG3cDISH PLUS SHUcDUB TIMES SHEcEZEN TIMES GUDeSHE
cGA2 TIMES AN PLUS KAK PLUS AeASH2cGE22cGIGcHUSHcKA TIMES ANSHEeASH3eGISHeGUDeHI TIMES ASH2eLUM
ePAeSHULeTUeUR2cLAGAB TIMES GIcLU2 SHESHIG TIMES BADdTIMES ESH2 PLUS LALeSHUcMESHcMUSH3 TIMES ZA
cNA4cNINcNIN9cNINDA2 TIMES BALeGIcNU11 ROTATED NINETY DEGREEScPESH2 ASTERISKcPIR2
cSAG TIMES IGI GUNUcTI2cUM TIMES MEcU U"⟩,
  ⟨0x12400, "aCUNEIFORM NUMERIC * TWO ASHd| ASHdFOUR ASHdFIVE ASHdSIX ASHdSEVEN ASHdEIGHT ASH
dNINE ASHd| DISHdFOUR DISHdFIVE DISHdSIX DISHdSEVEN DISHdEIGHT DISHdNINE DISHdFOUR UdFIVE UdSIX U
dSEVEN UdEIGHT UdNINE UdONE GESH2dTWO GESH2d| GESH2dFOUR GESH2dFIVE GESH2dSIX GESH2dSEVEN GESH2
dEIGHT GESH2dNINE GESH2dONE GESHUdTWO GESHUd| GESHUdFOUR GESHUdFIVE GESHUdTWO SHAR2d| SHAR2
eSHAR2 VARIANT (dFOUR SHAR2dFIVE SHAR2dSIX SHAR2dSEVEN SHAR2dEIGHT SHAR2dNINE SHAR2dONE SHARU
dTWO SHARUd| SHARUeSHARU VARIANT (dFOUR SHARUdFIVE SHARUdSHAR2 TIMES GAL PLUS DISHhMINdONE BURU
dTWO BURUd| BURUeBURU VARIANT (dFOUR BURUdFIVE BURUd| VARIANT ( ESH16gESH21dFOUR VARIANT ( LIMMU
gLIMMU4gLIMMU AzdSIX VARIANT ( ASH9dSEVEN VARIANT ( IMIN3gIMIN AzdEIGHT VARIANT ( USSUgUSSU3
dNINE VARIANT ( ILIMMUgILIMMU3zgILIMMU AdTWO ASH TENUd| ASH TENUdFOUR ASH TENUdFIVE ASH TENU
dSIX ASH TENUdONE BAN2dTWO BAN2d| BAN2dFOUR BAN2eBAN2 VARIANT (dFIVE BAN2eBAN2 VARIANT (
dNIGIDAMINdNIGIDAESHdONE ESHE3dTWO ESHE3dONE THIRD DISHdTWO THIRDS DISHdFIVE SIXTHS DISH
dONE THIRD VARIANT ( AdTWO THIRDS VARIANT ( AdONE EIGHTH ASHeQUARTER ASHdOLD ASSYRIAN ONE SIXTH
gQUARTERdONE QUARTER GUReHALF GURdELAMITE ONE THIRDeTWO THIRDSeFORTYeFIFTYdFOUR U VARIANT (
dFIVE U VARIANT (dSIX U VARIANT (dSEVEN U VARIANT (dEIGHT U VARIANT (dNINE U VARIANT ("⟩,
  ⟨0x12470, "aCUNEIFORM PUNCTUATION * OLD ASSYRIAN WORD DIVIDERd? COLONdDIAGONAL COLONeTRICOLON
eQUADCOLON"⟩,
  ⟨0x12480, "aCUNEIFORM * AB TIMES NUN TENUeSHU2cAD TIMES ESH2cBAD TIMES DISH TENU
cBAHAR2 TIMES AB2eNIeZAcBU OVER BU TIMES NA2cDA TIMES TAK4cDAG TIMES KURcDIM TIMES IGIeU U U
cDIM2 TIMES UDcDUG TIMES ANSHEeASHeASH AT ;eDINeDUNeERIN2eGAeGIeGIR2 GUNUeGISHeHAeHIeIGI GUNU
eKASKALeKUReKUSHU2eKUSHU2 PLUS KASKALeLAK-020eLAMeLAM TIMES KUReLUH PLUS GISHeMASHeMESeMIeNIePI
eSHEeSI GUNUcE2 TIMES KURePAPcERIN2 XcESH2 CROSSING ESH2cEZEN SHESHIG TIMES ASHfHIfIGI GUNUfLA
fLALfMEfMESfSUdTIMES SUcGA2 TIMES BAHAR2eDIM GUNUeDUG TIMES IGI GUNUgKASKALeERENeGAeGAR PLUS DI
gNEeHA PLUS AeKUSHU2 PLUS KASKALeLAMeLAM TIMES KUReLUHeMUSHeNEeNE PLUS E2gGIeSHIMeZIZ2
cGABA ROTATED NINETY DEGREEScGESHTIN TIMES UcGISH TIMES GISH CROSSING GISHcGU2 TIMES IGI GUNU
cGUD PLUS GISH TIMES TAK4cHA TENU GUNUcHI TIMES ASH OVER HI TIMES ASHcKA TIMES BUeKAeU U UeUR
cLAGAB TIMES ZU OVER ZUcLAK-003cLAK-021cLAK-025cLAK-030cLAK-050zcLAK-062
cLAK-079 OVER LAK-079 GUNUcLAK-080cLAK-081 OVER LAK-081cLAK-092cLAK-130cLAK-142cLAK-210cLAK-219z
cLAK-225cLAK-228cLAK-238cLAK-265zcLAK-343cLAK-347zcLAK-383zcLAK-390cLAK-441cLAK-449
cLAK-449 TIMES GUeIGIePAP PLUS LU3gPAP PLUS LU3eU2 PLUS BAcLAK-450cLAK-457cLAK-470cLAK-483
cLAK-490cLAK-492zcLAK-495cLAK-550cLAK-608cLAK-617cLAK-617 TIMES ASHeBADeDUN3 GUNU GUNUeKU3eLAeTAR
eTEeU2eUDeURUDAcLAK-636cLAK-648cLAK-648 TIMES DUBeGAeIGIeIGI GUNUeNIePAP PLUS PAP PLUS LU3
eSHESH PLUS KIeUDeURUDAcLAK-724cLAK-749cLU2 GUNU TIMES ASHdTIMES DISHeHALePAP
ePAP PLUS PAP PLUS LU3eTAK4cMI PLUS ZA7cMUSH OVER MUSH TIMES GAgKAKcNINDA2 TIMES DIM GUNUeGISH
eGULeHIeKESH2eLAK-050eMASHePAP PLUS PAPeUeU PLUS UeURUDAcSAG GUNU TIMES HAdTIMES ENeSHE AT ;eTAK4
cSHA6 TENUcSHE OVER SHEdPLUS HUB2eNAM2eSARcSHU2 PLUS DUG TIMES NIeE2 TIMES ANcSI TIMES TAK4
cTAK4 PLUS SAGcTUM TIMES GAN2 TENUe| DISHcUR2 INVERTEDdTIMES UDcURU TIMES DARA3eLAK-668eLU3cZA7
cZU OVER ZU PLUS SARcZU5 TIMES | DISH TENU"⟩,
  ⟨0x12f90, "aCYPRO-MINOAN * CM001zcCM004zzzzzzzzcCM012BcCM013cCM015cCM017cCM019cCM021cCM023zzzzz
zzcCM033zzzzzzzzcCM044cCM046zcCM049zzzzzzzcCM058zzzzzzcCM066zzzzzzzzzcCM075BcCM076cCM078zzzzzzzzz
zzzzzcCM094zzzzzzzzzzzcCM107zzzcCM112cCM114cCM301z"⟩,
  ⟨0x13000, "aEGYPTIAN HIEROGLYPH A001zzzzcA005AcA006cA006AzcA007zzzzzzzcA014AcA015zzcA017AcA018z
zzzzzzzzzzzzzcA032AcA033zzzzzzzcA040AcA041zcA042AcA043cA043AcA044zcA045AcA046zzzzzzzzzzzzzzzzzzzz
zzzzcB001zzzzcB005AcB006zzzcC001zcC002AzzcC003zzzzzzzcC010AcC011zzzzzzzzzzzzzcD001zzzzzzzcD008A
cD009zzzzzzzzzzzzzzzzzzcD027AcD028zzzcD031AcD032zzcD034AcD035zzzzzzzzzzzcD046AcD047zcD048AcD049z
cD050AzzzzzzzzcD051zcD052AcD053zcD054AcD055zzzzzzzzzzzzcD067AzzzzzzzcE001zzzzzzzcE008AcE009cE009A
cE010zzzzzzcE016AcE017cE017AcE018zzcE020AcE021zzzzzzzcE028AcE029zzzzzcE034AcE036zzcF001cF001A
cF002zzzzzzzzzzzcF013AcF014zzzzzzzcF021AcF022zzzzzzzzzcF031AcF032zzzzzcF037AcF038cF038AcF039zzzzz
zcF045AcF046cF046AcF047cF047AcF048zzzcF051AzzcF052zcG001zzzzzcG006AcG007cG007AzcG008zzzcG011A
cG012zzzzzzzzcG020AcG021zzzzzcG026AcG027zzzzzzzzzcG036AcG037cG037AcG038zzzzzcG043AcG044zcG045A
cG046zzzzzzzzcH001zzzzzcH006AcH007zcI001zzzzcI005AcI006zzzcI009AcI010cI010AcI011cI011AcI012zzz
cK001zzzzzzzcL001zcL002AcL003zzzcL006AcL007zcM001cM001AzcM002zcM003AcM004zzzzzzcM010AcM011zcM012A
zzzzzzzcM013zzcM015AcM016cM016AcM017cM017AcM018zzzzcM022AcM023zcM024AcM025zzzcM028AcM029zzcM031A
cM032zcM033AzcM034zzzzzzcM040AcM041zzzcN001zzzzzzzzzzzzzzzzzcN018AzcN019zzzzzzcN025AcN026zzzzzzz
cN033AcN034cN034AcN035cN035AcN036zcN037AcN038zzzzcNL001zzzzcNL005AcNL006zzzzzzzzzzzcNL017AcNL018z
zcNU001zzzzzzzzzcNU010AcNU011cNU011AcNU012zzzzzzcNU018AcNU019zzzcNU022AcO001cO001AcO002zzzcO005A
cO006cO006AzzzzzcO007zzzcO010AzzcO011zzzzzzzzcO019AcO020cO020AcO021zzzcO024AcO025cO025AcO026zzz
cO029AcO030cO030AcO031zzcO033AcO034zzcO036AzzzcO037zzzzzzzzzzzzzcO050AzcO051cP001cP001AcP002z
cP003AcP004zzzzzzzcQ001zzzzzzcR001zcR002AcR003cR003AzcR004zzzzzzcR010AcR011zzzzzcR016AcR017zzzzzz
zzzzzzcS001zcS002AcS003zzzcS006AcS007zzzzzzzcS014AzcS015zzcS017AcS018zzzzzzzzcS026AzcS027zzzzzzzz
cS035AcS036zzzzzzzzzzcT001zzcT003AcT004zzzcT007AcT008cT008AcT009cT009AcT010zcT011AcT012zzzzcT016A
cT017zzzzzzzzzzzzzzzcT032AcT033cT033AcT034zzcU001zzzzzcU006AzcU007zzzzzzzzzzzzzzzzcU023AcU024zzzz
zcU029AcU030zzcU032AcU033zzzzzzzzzcV001cV001AzzzzzzzzcV002cV002AcV003zzzzcV007AzcV008zzzcV011Azz
cV012cV012AzcV013zzzzzzzcV020AzzzzzzzzzzzcV021zzcV023AcV024zzzzcV028AcV029cV029AcV030cV030AcV031
cV031AcV032zcV033AcV034zzzcV037AcV038zzcV040AcW001zzcW003AcW004zzzzzcW009AcW010cW010AcW011zzz
cW014AcW015zzcW017AcW018cW018AcW019zzzzzcW024AcW025cX001zzzcX004AzcX005zcX006AcX007zcX008AcY001
cY001AcY002zzzzzzcZ001zcZ002AzzzcZ003cZ003AzcZ004cZ004AcZ005cZ005AcZ006zzzzzzzzzcZ015Azzzzzzzz
cZ016cZ016AzzzzzzzcAA001zzzzzzcAA007AzcAA008zzzzzzzzzzzzzzzzzzzzzzzz"⟩,
  ⟨0x1342f, "aEGYPTIAN HIEROGLYPH V011D"⟩,
  ⟨0x13430, "aEGYPTIAN HIEROGLYPH ? JOINERcp JOINERcINSERT AT TOP STARTeBOTTOM STARTeTOP END
eBOTTOM ENDcOVERLAY scBEGIN SEGMENTcEND SEGMENT"⟩,
  ⟨0x13439, "aEGYPTIAN HIEROGLYPH INSERT AT seTOPeBOTTOMcBEGIN ENCLOSUREcEND ENCLOSURE
cBEGIN WALLED ENCLOSUREcEND WALLED ENCLOSUREcMIRROR HORIZONTALLYcFULL BLANKcHALF BLANKcLOST *
cHALF LOST *cTALL LOST *cWIDE LOST *cMODIFIER DAMAGED AT TOP STARTfBOTTOM STARTfSTARTfTOP ENDfTOP
fBOTTOM START > TOP ENDfSTART > TOPfBOTTOM ENDfTOP START > BOTTOM ENDfBOTTOMfSTART > BOTTOMfEND
fTOP > ENDfBOTTOM > ENDdDAMAGED"⟩]

end CallTree.Text.CharName
