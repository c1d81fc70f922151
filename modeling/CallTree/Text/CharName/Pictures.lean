import CallTree.Text.CharName.Packed

/-!
# Names of characters: pictures

The characters from U+1E000 on whose names follow no rule: a few scripts, game pieces, pictures,
and the tags and selectors at the end.
-/

namespace CallTree.Text.CharName

/-- The names of these characters. -/
def pictures : List Run := [
  ⟨0x1e000, "aCOMBINING GLAGOLITIC ! AZUdBUKYdVEDEdGLAGOLIdDOBROdYESTUdZHIVETE"⟩,
  ⟨0x1e008, "aCOMBINING GLAGOLITIC ! ZEMLJAdIZHEd_ IZHEdIdDJERVIdKAKOdLJUDIJEdMYSLITEdNASHIdONU
dPOKOJIdRITSIdSLOVOdTVRIDOdUKUdFRITUdHERU"⟩,
  ⟨0x1e01b, "aCOMBINING GLAGOLITIC ! SHTAdTSIdCHRIVIdSHAdYERUdYERIdYATI"⟩,
  ⟨0x1e023, "aCOMBINING GLAGOLITIC ! YUd& YUS"⟩,
  ⟨0x1e026, "aCOMBINING GLAGOLITIC ! YOdIOTATED & YUSdBIG YUSdIOTATED BIG YUSdFITA"⟩,
  ⟨0x1e030, "aMODIFIER ! CYRILLIC & AeBEeVEeGHEeDEeIEeZHEeZEeIeKAeELzeOePEeERzeTEeUeEFeHAeTSEeCHE
eSHAeYERUeEeYUeDZZEeSCHWAeBYELORUSSIAN-UKRAINIAN IeJEeBARRED OeSTRAIGHT UePALOCHKA
aCYRILLIC SUBSCRIPT & ! AeBEeVEeGHEeDEeIEeZHEeZEeIeKAeELeOePEeESeUeEFeHAeTSEeCHEeSHAeHARD *eYERU
eGHE $ UPTURNeBYELORUSSIAN-UKRAINIAN IeDZEeDZHEaMODIFIER ! CYRILLIC & ES $ DESCENDER
eYERU $ BACK YEReSTRAIGHT U $ m"⟩,
  ⟨0x1e08f, "aCOMBINING CYRILLIC & ! BYELORUSSIAN-UKRAINIAN I"⟩,
  ⟨0x1e100, "aNYIAKENG PUACHUE HMONG ! MAeTSAeNTAeTAeHAeNAeXAeNKAeCAeLAeSAeZAeNCAeNTSAeKAeDAeNYA
eNRAeVAeNTXAeTXAeFAeRAeQAeYAeNQAePAeXYAeNPAeDLAeNPLAeHAHeMLAePLAeGAeRRAeAeAAeIeUeOeOOeEeEEeW"⟩,
  ⟨0x1e130, "aNYIAKENG PUACHUE HMONG TONE-BdTONE-MdTONE-JdTONE-VdTONE-SdTONE-GdTONE-D
d* FOR PERSONfTHINGfLOCATIONfANIMALfINVERTEBRATEeXW XWdSYLLABLE LENGTHENER"⟩,
  ⟨0x1e140, "aNYIAKENG PUACHUE HMONG DIGIT ZEROeONEeTWOe|eFOUReFIVEeSIXeSEVENeEIGHTeNINE"⟩,
  ⟨0x1e14e, "aNYIAKENG PUACHUE HMONG LOGOGRAM NYAJdCIRCLED CA"⟩,
  ⟨0x1e290, "aTOTO ! PAcBAcTAcDAcKAcGAcMAcNAcNGAcSAcCHAcYAcWAcJAcHAcRAcLAcIcBREATHY IcIU
cBREATHY IUcUcEcBREATHY EcEOcBREATHY EOcOcAEcBREATHY AEcAb* RISING TONE"⟩,
  ⟨0x1e2c0, "aWANCHO ! AAcAcBAcCAcDAcGAcYAcPHAcLAcNAcPAcTAcTHAcFAcSAcSHAcJAcZAcWAcVAcKAcOcAUcRA
cMAcKHAcHAcEcIcNGAcUcLLHAcTSAcTRAcONGcAANGcANGcINGcONcENcAANcNYAcUENcYIHbTONE TUPcTUPNIcKOIcKOINI
bDIGIT ZEROcONEcTWOc|cFOURcFIVEcSIXcSEVENcEIGHTcNINE"⟩,
  ⟨0x1e2ff, "aWANCHO NGUN *"⟩,
  ⟨0x1e4d0, "aNAG MUNDARI ! OdOPdOLdOYdONGdAdAJdABdANYdAHdIdISdIDDdITdIHdUdUCzdUKdURdEdENNdEGdEMz
dETTdELLc* OJODdMUHORdTOYORdIKIRdSUTUHcDIGIT ZEROdONEdTWOd|dFOURdFIVEdSIXdSEVENdEIGHTdNINE"⟩,
  ⟨0x1e7e0, "aETHIOPIC SYLLABLE HHYAcHHYUcHHYIcHHYAAcHHYEEcHHYEcHHYO"⟩,
  ⟨0x1e7e8, "aETHIOPIC SYLLABLE GURAGE HHWAcHHWIcHHWEEcHHWE"⟩,
  ⟨0x1e7ed, "aETHIOPIC SYLLABLE GURAGE MWIdMWEE"⟩,
  ⟨0x1e7f0, "aETHIOPIC SYLLABLE GURAGE QWIdQWEEdQWEdBWIdBWEEdKWIdKWEEdKWEdGWIdGWEEdGWEdFWIdFWEE
dPWIdPWEE"⟩,
  ⟨0x1e800, "aMENDE KIKAKUI SYLLABLE M001 KIdM002 KAdM003 KUdM065 KEEdM095 KEdM076 KOOdM048 KO
dM179 KUAdM004 WIdM005 WAdM006 WUdM126 WEEdM118 WEdM114 WOOdM045 WOdM194 WUIdM143 WEIdM061 WVI
dM049 WVAdM139 WVEdM007 MINdM008 MANdM009 MUNdM059 MENdM094 MONdM154 MUANdM189 MUENdM010 BI
dM011 BAdM012 BUdM150 BEEdM097 BEdM103 BOOdM138 BOdM013 IdM014 AdM015 UdM163 EEdM100 EdM165 OO
dM147 OdM137 EIdM131 INdM135 INdM195 ANdM178 ENdM019 SIdM020 SAdM021 SUdM162 SEEdM116 SEdM136 SOO
dM079 SOdM196 SIAdM025 LIdM026 LAdM027 LUdM084 LEEdM073 LEdM054 LOOdM153 LOdM110 LONG LEdM016 DI
dM017 DAdM018 DUdM089 DEEdM180 DOOdM181 DOdM022 TIdM023 TAdM024 TUdM091 TEEdM055 TEdM104 TOO
dM069 TOdM028 JIdM029 JAdM030 JUdM157 JEEdM113 JEdM160 JOOdM063 JOdM175 LONG JOdM031 YIdM032 YA
dM033 YUdM109 YEEdM080 YEdM141 YOOdM121 YOdM034 FIdM035 FAdM036 FUdM078 FEEdM075 FEdM133 FOO
dM088 FOdM197 FUAdM101 FANdM037 NINdM038 NANdM039 NUNdM117 NENdM169 NONdM176 HIdM041 HAdM186 HU
dM040 HEEdM096 HEdM042 HOOdM140 HOdM083 HEEIdM128 HOOUdM053 HINdM130 HANdM087 HUNdM052 HEN
dM193 HONdM046 HUANdM090 NGGIdM043 NGGAdM082 NGGUdM115 NGGEEdM146 NGGEdM156 NGGOOdM120 NGGO
dM159 NGGAAdM127 NGGUAdM086 LONG NGGEdM106 LONG NGGOOdM183 LONG NGGOdM155 GIdM111 GAdM168 GU
dM190 GEEdM166 GUEIdM167 GUANdM184 NGENdM057 NGONdM177 NGUANdM068 PIdM099 PAdM050 PUdM081 PEE
dM051 PEdM102 POOdM066 POdM145 MBIdM062 MBAdM122 MBUdM047 MBEEdM188 MBEEdM072 MBEdM172 MBOO
dM174 MBOdM187 MBUUdM161 LONG MBEdM105 LONG MBOOdM142 LONG MBOdM132 KPIdM092 KPAdM074 KPU
dM044 KPEEdM108 KPEdM112 KPOOdM158 KPOdM124 GBIdM056 GBAdM148 GBUdM093 GBEEdM107 GBEdM071 GBOO
dM070 GBOdM171 RAdM123 NDIdM129 NDAdM125 NDUdM191 NDEEdM119 NDEdM067 NDOOdM064 NDOdM152 NJA
dM192 NJUdM149 NJEEdM134 NJOOdM182 VIdM185 VAdM151 VUdM173 VEEdM085 VEdM144 VOOdM077 VOdM164 NYIN
dM058 NYANdM170 NYUNdM098 NYENdM060 NYON"⟩,
  ⟨0x1e8c7, "aMENDE KIKAKUI DIGIT ONEdTWOd|dFOURdFIVEdSIXdSEVENdEIGHTdNINEcCOMBINING NUMBER TEENS
eTENSeHUNDREDSeTHOUSANDSeTEN THOUSANDSet THOUSANDSeMILLIONS"⟩,
  ⟨0x1e900, "aADLAM % ! ALIFdDAALIdLAAMdMIIMdBAdSINNYIIYHEdPEdBHEdRAdEdFAdIdOdDHAdYHEdWAWdNUNdKAF
dYAdUdJIIMdCHIdHAdQAAFdGAdNYAdTUdNHAdVAdKHAdGBEdZALdKPOdSHAb& ! ALIFdDAALIdLAAMdMIIMdBA
dSINNYIIYHEdPEdBHEdRAdEdFAdIdOdDHAdYHEdWAWdNUNdKAFdYAdUdJIIMdCHIdHAdQAAFdGAdNYAdTUdNHAdVAdKHAdGBE
dZALdKPOdSHAbALIF LENGTHENERbVOWEL LENGTHENERbGEMINATION rbHAMZAbCONSONANT MODIFIER
bGEMINATE CONSONANT MODIFIERbNUKTAbNASALIZATION r"⟩,
  ⟨0x1e950, "aADLAM DIGIT ZEROcONEcTWOc|cFOURcFIVEcSIXcSEVENcEIGHTcNINE"⟩,
  ⟨0x1e95e, "aADLAM _ EXCLAMATION rcQUESTION r"⟩,
  ⟨0x1ec71, "aINDIC SIYAQ NUMBER ONEdTWOd|dFOURdFIVEdSIXdSEVENdEIGHTdNINEdTENdTWENTYdTHIRTYdFORTY
dFIFTYdSIXTYdSEVENTYdEIGHTYdNINETYdONE tdTWO td| tdFOUR tdFIVE tdSIX tdSEVEN tdEIGHT tdNINE t
dONE vdTWO vd| vdFOUR vdFIVE vdSIX vdSEVEN vdEIGHT vdNINE vdTEN vdTWENTY vdTHIRTY vdFORTY v
dFIFTY vdSIXTY vdSEVENTY vdEIGHTY vdNINETY vdLAKHdLAKHANcLAKH rcNUMBER KARORdKARORANdPREFIXED ONE
eTWOe|eFOUReFIVEeSIXeSEVENeEIGHTeNINEcPLACEHOLDERcFRACTION ONE QUARTEReHALFd| QUARTERScRUPEE r
cNUMBER ALTERNATE ONEeTWOeTEN vcALTERNATE LAKH r"⟩,
  ⟨0x1ed01, "aOTTOMAN SIYAQ NUMBER ONEdTWOd|dFOURdFIVEdSIXdSEVENdEIGHTdNINEdTENdTWENTYdTHIRTY
dFORTYdFIFTYdSIXTYdSEVENTYdEIGHTYdNINETYdONE tdTWO td| tdFOUR tdFIVE tdSIX tdSEVEN tdEIGHT t
dNINE tdONE vdTWO vd| vdFOUR vdFIVE vdSIX vdSEVEN vdEIGHT vdNINE vdTEN vdTWENTY vdTHIRTY v
dFORTY vdFIFTY vdSIXTY vdSEVENTY vdEIGHTY vdNINETY vcMARRATANcALTERNATE NUMBER TWOe|eFOUReFIVE
eSIXeSEVENeEIGHTeNINEeTENeFOUR teSIX teTWO veTEN vcFRACTION ONE HALFeSIXTH"⟩,
  ⟨0x1ee00, "aARABIC MATHEMATICAL ALEFcBEHcJEEMcDAL"⟩,
  ⟨0x1ee05, "aARABIC MATHEMATICAL WAWcZAINcHAHcTAHcYEHcKAFcLAMcMEEMcNOONcSEENcAINcFEHcSADcQAFcREH
cSHEENcTEHcTHEHcKHAHcTHALcDADcZAHcGHAINcDOTLESS BEHdNOONdFEHdQAF"⟩,
  ⟨0x1ee21, "aARABIC MATHEMATICAL _ BEHdJEEM"⟩,
  ⟨0x1ee24, "aARABIC MATHEMATICAL _ HEH"⟩,
  ⟨0x1ee27, "aARABIC MATHEMATICAL _ HAH"⟩,
  ⟨0x1ee29, "aARABIC MATHEMATICAL _ YEHdKAFdLAMdMEEMdNOONdSEENdAINdFEHdSADdQAF"⟩,
  ⟨0x1ee34, "aARABIC MATHEMATICAL _ SHEENdTEHdTHEHdKHAH"⟩,
  ⟨0x1ee39, "aARABIC MATHEMATICAL _ DAD"⟩,
  ⟨0x1ee3b, "aARABIC MATHEMATICAL _ GHAIN"⟩,
  ⟨0x1ee42, "aARABIC MATHEMATICAL TAILED JEEM"⟩,
  ⟨0x1ee47, "aARABIC MATHEMATICAL TAILED HAH"⟩,
  ⟨0x1ee49, "aARABIC MATHEMATICAL TAILED YEH"⟩,
  ⟨0x1ee4b, "aARABIC MATHEMATICAL TAILED LAM"⟩,
  ⟨0x1ee4d, "aARABIC MATHEMATICAL TAILED NOONdSEENdAIN"⟩,
  ⟨0x1ee51, "aARABIC MATHEMATICAL TAILED SADdQAF"⟩,
  ⟨0x1ee54, "aARABIC MATHEMATICAL TAILED SHEEN"⟩,
  ⟨0x1ee57, "aARABIC MATHEMATICAL TAILED KHAH"⟩,
  ⟨0x1ee59, "aARABIC MATHEMATICAL TAILED DAD"⟩,
  ⟨0x1ee5b, "aARABIC MATHEMATICAL TAILED GHAIN"⟩,
  ⟨0x1ee5d, "aARABIC MATHEMATICAL TAILED DOTLESS NOON"⟩,
  ⟨0x1ee5f, "aARABIC MATHEMATICAL TAILED DOTLESS QAF"⟩,
  ⟨0x1ee61, "aARABIC MATHEMATICAL STRETCHED BEHdJEEM"⟩,
  ⟨0x1ee64, "aARABIC MATHEMATICAL STRETCHED HEH"⟩,
  ⟨0x1ee67, "aARABIC MATHEMATICAL STRETCHED HAHdTAHdYEHdKAF"⟩,
  ⟨0x1ee6c, "aARABIC MATHEMATICAL STRETCHED MEEMdNOONdSEENdAINdFEHdSADdQAF"⟩,
  ⟨0x1ee74, "aARABIC MATHEMATICAL STRETCHED SHEENdTEHdTHEHdKHAH"⟩,
  ⟨0x1ee79, "aARABIC MATHEMATICAL STRETCHED DADdZAHdGHAINdDOTLESS BEH"⟩,
  ⟨0x1ee7e, "aARABIC MATHEMATICAL STRETCHED DOTLESS FEH"⟩,
  ⟨0x1ee80, "aARABIC MATHEMATICAL LOOPED ALEFdBEHdJEEMdDALdHEHdWAWdZAINdHAHdTAHdYEH"⟩,
  ⟨0x1ee8b, "aARABIC MATHEMATICAL LOOPED LAMdMEEMdNOONdSEENdAINdFEHdSADdQAFdREHdSHEENdTEHdTHEH
dKHAHdTHALdDADdZAHdGHAIN"⟩,
  ⟨0x1eea1, "aARABIC MATHEMATICAL DOUBLE-STRUCK BEHdJEEMdDAL"⟩,
  ⟨0x1eea5, "aARABIC MATHEMATICAL DOUBLE-STRUCK WAWdZAINdHAHdTAHdYEH"⟩,
  ⟨0x1eeab, "aARABIC MATHEMATICAL DOUBLE-STRUCK LAMdMEEMdNOONdSEENdAINdFEHdSADdQAFdREHdSHEENdTEH
dTHEHdKHAHdTHALdDADdZAHdGHAIN"⟩,
  ⟨0x1eef0, "aARABIC MATHEMATICAL OPERATOR MEEM $ HAH $ TATWEELdHAH $ DAL"⟩,
  ⟨0x1f000, "aMAHJONG TILE EAST WINDcSOUTH WINDcWEST WINDcNORTH WINDcRED DRAGONcGREEN DRAGON
cq DRAGONcONE OF CHARACTERScTWO OF CHARACTERSc| OF CHARACTERScFOUR OF CHARACTERS
cFIVE OF CHARACTERScSIX OF CHARACTERScSEVEN OF CHARACTERScEIGHT OF CHARACTERScNINE OF CHARACTERS
cONE OF BAMBOOScTWO OF BAMBOOSc| OF BAMBOOScFOUR OF BAMBOOScFIVE OF BAMBOOScSIX OF BAMBOOS
cSEVEN OF BAMBOOScEIGHT OF BAMBOOScNINE OF BAMBOOScONE OF CIRCLEScTWO OF CIRCLESc| OF CIRCLES
cFOUR OF CIRCLEScFIVE OF CIRCLEScSIX OF CIRCLEScSEVEN OF CIRCLEScEIGHT OF CIRCLEScNINE OF CIRCLES
cPLUMcORCHIDcBAMBOOcCHRYSANTHEMUMcSPRINGcSUMMERcAUTUMNcWINTERcJOKERcBACK"⟩,
  ⟨0x1f030, "aDOMINO TILE p BACKcHORIZONTAL-00-00zzzzzzcHORIZONTAL-01-00zzzzzzcHORIZONTAL-02-00zz
zzzzcHORIZONTAL-03-00zzzzzzcHORIZONTAL-04-00zzzzzzcHORIZONTAL-05-00zzzzzzcHORIZONTAL-06-00zzzzzz
c? BACKcVERTICAL-00-00zzzzzzcVERTICAL-01-00zzzzzzcVERTICAL-02-00zzzzzzcVERTICAL-03-00zzzzzz
cVERTICAL-04-00zzzzzzcVERTICAL-05-00zzzzzzcVERTICAL-06-00zzzzzz"⟩,
  ⟨0x1f0a0, "aPLAYING CARD BACKcACE OF SPADEScTWO OF SPADESc| OF SPADEScFOUR OF SPADES
cFIVE OF SPADEScSIX OF SPADEScSEVEN OF SPADEScEIGHT OF SPADEScNINE OF SPADEScTEN OF SPADES
cJACK OF SPADEScKNIGHT OF SPADEScQUEEN OF SPADEScKING OF SPADES"⟩,
  ⟨0x1f0b1, "aPLAYING CARD ACE OF HEARTScTWO OF HEARTSc| OF HEARTScFOUR OF HEARTScFIVE OF HEARTS
cSIX OF HEARTScSEVEN OF HEARTScEIGHT OF HEARTScNINE OF HEARTScTEN OF HEARTScJACK OF HEARTS
cKNIGHT OF HEARTScQUEEN OF HEARTScKING OF HEARTScRED JOKER"⟩,
  ⟨0x1f0c1, "aPLAYING CARD ACE OF DIAMONDScTWO OF DIAMONDSc| OF DIAMONDScFOUR OF DIAMONDS
cFIVE OF DIAMONDScSIX OF DIAMONDScSEVEN OF DIAMONDScEIGHT OF DIAMONDScNINE OF DIAMONDS
cTEN OF DIAMONDScJACK OF DIAMONDScKNIGHT OF DIAMONDScQUEEN OF DIAMONDScKING OF DIAMONDSco JOKER"⟩,
  ⟨0x1f0d1, "aPLAYING CARD ACE OF CLUBScTWO OF CLUBSc| OF CLUBScFOUR OF CLUBScFIVE OF CLUBS
cSIX OF CLUBScSEVEN OF CLUBScEIGHT OF CLUBScNINE OF CLUBScTEN OF CLUBScJACK OF CLUBS
cKNIGHT OF CLUBScQUEEN OF CLUBScKING OF CLUBScq JOKERcFOOLcTRUMP-1zzzzzzzzcTRUMP-10zzzzzzzzzzz"⟩,
  ⟨0x1f100, "aDIGIT ZERO FULL STOPcCOMMAbONE COMMAbTWO COMMAb| COMMAbFOUR COMMAbFIVE COMMA
bSIX COMMAbSEVEN COMMAbEIGHT COMMAbNINE COMMAaDINGBAT CIRCLED SANS-SERIF DIGIT ZERO
bNEGATIVE CIRCLED SANS-SERIF DIGIT ZEROaCIRCLED ZERO $ SLASHbANTICLOCKWISE )
bDOLLAR * $ OVERLAID BACKSLASHaPARENTHESIZED LATIN % ! Azzzzzzzzzzzzzzzzzzzzzzzzz
aTORTOISE SHELL BRACKETED LATIN % ! SaCIRCLED ITALIC LATIN % ! CfRbCDbWZaCOPYLEFT n
aSQUARED LATIN % ! AzzzzzzzzzzzzzzzzzzzzzzzzzbHVbMVbSDbSSbPPVbWCaNEGATIVE CIRCLED LATIN % ! Azzzz
zzzzzzzzzzzzzzzzzzzzzaRAISED MC *bMD *bMR *aCIRCLED CCbC $ OVERLAID BACKSLASHbHUMAN FIGURE
aNEGATIVE SQUARED LATIN % ! AzzzzzzzzzzzzzzzzzzzzzzzzzaCROSSED NEGATIVE SQUARED LATIN % ! P
aNEGATIVE SQUARED ICcPAcSAcABcWCaSQUARE DJaSQUARED CLbCOOLbFREEbIDbNEWbNGbOKbSOS
bUP $ EXCLAMATION rbVSb| DbSECOND SCREENbTWO KbFOUR KbEIGHT KbFIVE POINT ONEbSEVEN POINT ONE
bTWENTY-TWO POINT TWObSIXTY PbONE t TWENTY PbLATIN & ! DbHCbHDRbHI-RESbLOSSLESSbSHVbUHDbVOD
aMASK WORK n"⟩,
  ⟨0x1f1e6, "aREGIONAL INDICATOR n ! AzzzzzzzzzzzzzzzzzzzzzzzzzaSQUARE HIRAGANA HOKA
aSQUARED KATAKANA KOKOcSA"⟩,
  ⟨0x1f210, "aSQUARED CJK UNIFIED IDEOGRAPH-624BdIDEOGRAPH-5B57dIDEOGRAPH-53CCbKATAKANA DE
bCJK UNIFIED IDEOGRAPH-4E8CdIDEOGRAPH-591AdIDEOGRAPH-89E3dIDEOGRAPH-5929dIDEOGRAPH-4EA4
dIDEOGRAPH-6620dIDEOGRAPH-7121dIDEOGRAPH-6599dIDEOGRAPH-524DdIDEOGRAPH-5F8CdIDEOGRAPH-518D
dIDEOGRAPH-65B0dIDEOGRAPH-521DdIDEOGRAPH-7D42dIDEOGRAPH-751FdIDEOGRAPH-8CA9dIDEOGRAPH-58F0
dIDEOGRAPH-5439dIDEOGRAPH-6F14dIDEOGRAPH-6295dIDEOGRAPH-6355dIDEOGRAPH-4E00dIDEOGRAPH-4E09
dIDEOGRAPH-904AdIDEOGRAPH-5DE6dIDEOGRAPH-4E2DdIDEOGRAPH-53F3dIDEOGRAPH-6307dIDEOGRAPH-8D70
dIDEOGRAPH-6253dIDEOGRAPH-7981dIDEOGRAPH-7A7AdIDEOGRAPH-5408dIDEOGRAPH-6E80dIDEOGRAPH-6709
dIDEOGRAPH-6708dIDEOGRAPH-7533dIDEOGRAPH-5272dIDEOGRAPH-55B6dIDEOGRAPH-914D"⟩,
  ⟨0x1f240, "aTORTOISE SHELL BRACKETED CJK UNIFIED IDEOGRAPH-672CfIDEOGRAPH-4E09fIDEOGRAPH-4E8C
fIDEOGRAPH-5B89fIDEOGRAPH-70B9fIDEOGRAPH-6253fIDEOGRAPH-76D7fIDEOGRAPH-52DDfIDEOGRAPH-6557"⟩,
  ⟨0x1f250, "aCIRCLED IDEOGRAPH ADVANTAGEcACCEPT"⟩,
  ⟨0x1f260, "aROUNDED n FOR FUdLUdSHOUdXIdSHUANGXIdCAI"⟩,
  ⟨0x1f300, "aCYCLONEaFOGGYaCLOSED UMBRELLAaNIGHT $ STARSaSUNRISE OVER MOUNTAINSaSUNRISE
aCITYSCAPE AT DUSKaSUNSET OVER BUILDINGSaRAINBOWaBRIDGE AT NIGHTaWATER WAVEaVOLCANOaMILKY WAY
aEARTH GLOBE EUROPE-AFRICAcAMERICAScASIA-AUSTRALIAaGLOBE $ MERIDIANSaNEW MOON n
aWAXING CRESCENT MOON naFIRST QUARTER MOON naWAXING GIBBOUS MOON naFULL MOON n
aWANING GIBBOUS MOON naLAST QUARTER MOON naWANING CRESCENT MOON naCRESCENT MOONaNEW MOON $ FACE
aFIRST QUARTER MOON $ FACEaLAST QUARTER MOON $ FACEaFULL MOON $ FACEaSUN $ FACEaGLOWING STAR
aSHOOTING STARaTHERMOMETERao DROPLETaq SUNbSUN $ & CLOUDcBEHIND CLOUDdCLOUD $ RAINaCLOUD $ RAIN
cSNOWcLIGHTNINGcTORNADOaFOGaWIND BLOWING FACEaHOT DOGaTACOaBURRITOaCHESTNUTaSEEDLING
aEVERGREEN TREEaDECIDUOUS TREEaPALM TREEaCACTUSaHOT PEPPERaTULIPaCHERRY BLOSSOMaROSEaHIBISCUS
aSUNFLOWERaBLOSSOMaEAR OF MAIZEcRICEaHERBaFOUR LEAF CLOVERaMAPLE LEAFaFALLEN LEAF
aLEAF FLUTTERING IN WINDaMUSHROOMaTOMATOaAUBERGINEaGRAPESaMELONaWATERMELONaTANGERINEaLEMONaBANANA
aPINEAPPLEaRED APPLEaGREEN APPLEaPEARaPEACHaCHERRIESaSTRAWBERRYaHAMBURGERaSLICE OF PIZZA
aMEAT ON BONEaPOULTRY LEGaRICE CRACKERbBALLaCOOKED RICEaCURRY > RICEaSTEAMING BOWLaSPAGHETTI
aBREADaFRENCH FRIESaROASTED SWEET POTATOaDANGOaODENaSUSHIaFRIED SHRIMPaFISH CAKE $ SWIRL DESIGN
aSOFT ICE CREAMaSHAVED ICEaICE CREAMaDOUGHNUTaCOOKIEaCHOCOLATE BARaCANDYaLOLLIPOPaCUSTARD
aHONEY POTaSHORTCAKEaBENTO BOXaPOT OF FOODaCOOKINGaFORK > KNIFEaTEACUP WITHOUT HANDLE
aSAKE BOTTLE > CUPaWINE GLASSaCOCKTAIL GLASSaTROPICAL DRINKaBEER MUGaCLINKING BEER MUGS
aBABY BOTTLEaFORK > KNIFE $ PLATEaBOTTLE $ POPPING CORKaPOPCORNaRIBBONaWRAPPED PRESENT
aBIRTHDAY CAKEaJACK-O-LANTERNaCHRISTMAS TREEaFATHER CHRISTMASaFIREWORKSaFIREWORK SPARKLERaBALLOON
aPARTY POPPERaCONFETTI BALLaTANABATA TREEaCROSSED FLAGSaPINE DECORATIONaJAPANESE DOLLS
aCARP STREAMERaWIND CHIMEaMOON VIEWING CEREMONYaSCHOOL SATCHELaGRADUATION CAP
aHEART $ TIP ON THE ;aBOUQUET OF FLOWERSaMILITARY MEDALaREMINDER RIBBONaMUSICAL KEYBOARD $ JACKS
aSTUDIO MICROPHONEaLEVEL SLIDERaCONTROL KNOBSaBEAMED ASCENDING MUSICAL NOTES
bDESCENDING MUSICAL NOTESaFILM FRAMESaADMISSION TICKETSaCAROUSEL HORSEaFERRIS WHEEL
aROLLER COASTERaFISHING POLE > FISHaMICROPHONEaMOVIE CAMERAaCINEMAaHEADPHONEaARTIST PALETTE
aTOP HATaCIRCUS TENTaTICKETaCLAPPER BOARDaPERFORMING ARTSaVIDEO GAMEaDIRECT HITaSLOT MACHINE
aBILLIARDSaGAME DIEaBOWLINGaFLOWER PLAYING CARDSaMUSICAL NOTEaMULTIPLE MUSICAL NOTESaSAXOPHONE
aGUITARaMUSICAL KEYBOARDaTRUMPETaVIOLINaMUSICAL SCOREaRUNNING SHIRT $ SASHaTENNIS RACQUET > BALL
aSKI > SKI BOOTaBASKETBALL > HOOPaCHEQUERED FLAGaSNOWBOARDERaRUNNERaSURFERaSPORTS MEDALaTROPHY
aHORSE RACINGaAMERICAN FOOTBALLaRUGBY FOOTBALLaSWIMMERaWEIGHT LIFTERaGOLFERaRACING MOTORCYCLEbCAR
aCRICKET BAT > BALLaVOLLEYBALLaFIELD HOCKEY STICK > BALLaICE HOCKEY STICK > PUCK
aTABLE TENNIS PADDLE > BALLaSNOW CAPPED MOUNTAINaCAMPINGaBEACH $ UMBRELLAaBUILDING CONSTRUCTION
aHOUSE BUILDINGSaCITYSCAPEaDERELICT HOUSE BUILDINGaCLASSICAL BUILDINGaDESERTaDESERT ISLAND
aNATIONAL PARKaSTADIUMaHOUSE BUILDINGb$ GARDENaOFFICE BUILDINGaJAPANESE POST OFFICE
aEUROPEAN POST OFFICEaHOSPITALaBANKaAUTOMATED TELLER MACHINEaHOTELaLOVE HOTELaCONVENIENCE STORE
aSCHOOLaDEPARTMENT STOREaFACTORYaIZAKAYA LANTERNaJAPANESE CASTLEaEUROPEAN CASTLEaq PENNANT
ao PENNANTaWAVING q FLAGbo FLAGaROSETTEao ROSETTEaLABELaBADMINTON RACQUET > SHUTTLECOCKaBOW > )
aAMPHORAaEMOJI MODIFIER FITZPATRICK TYPE-1-2dTYPE-3zzzaRATaMOUSEaOXaWATER BUFFALOaCOWaTIGER
aLEOPARDaRABBITaCATaDRAGONaCROCODILEaWHALEaSNAILaSNAKEaHORSEaRAMaGOATaSHEEPaMONKEYaROOSTER
aCHICKENaDOGaPIGaBOARaELEPHANTaOCTOPUSaSPIRAL SHELLaBUGaANTaHONEYBEEaLADY BEETLEaFISH
aTROPICAL FISHaBLOWFISHaTURTLEaHATCHING CHICKaBABY CHICKaFRONT-FACING BABY CHICKaBIRDaPENGUIN
aKOALAaPOODLEaDROMEDARY CAMELaBACTRIAN CAMELaDOLPHINaMOUSE FACEaCOW FACEaTIGER FACEaRABBIT FACE
aCAT FACEaDRAGON FACEaSPOUTING WHALEaHORSE FACEaMONKEY FACEaDOG FACEaPIG FACEaFROG FACE
aHAMSTER FACEaWOLF FACEaBEAR FACEaPANDA FACEaPIG NOSEaPAW PRINTSaCHIPMUNKaEYESaEYEaEARaNOSEaMOUTH
aTONGUEaq UP POINTING BACKHAND INDEXbDOWN POINTING BACKHAND INDEXb; POINTING BACKHAND INDEX
b+ POINTING BACKHAND INDEXaFISTED HAND *aWAVING HAND *aOK HAND *aTHUMBS UP *bDOWN *
aCLAPPING HANDS *aOPEN HANDS *aCROWNaWOMANS HATaEYEGLASSESaNECKTIEaT-SHIRTaJEANSaDRESSaKIMONO
aBIKINIaWOMANS CLOTHESaPURSEaHANDBAGaPOUCHaMANS SHOEaATHLETIC SHOEaHIGH-HEELED SHOEaWOMANS SANDAL
bBOOTSaFOOTPRINTSaBUST IN SILHOUETTEaBUSTS IN SILHOUETTEaBOYaGIRLaMANaWOMANaFAMILY
aMAN > WOMAN HOLDING HANDSaTWO MEN HOLDING HANDSbWOMEN HOLDING HANDSaPOLICE OFFICER
aWOMAN $ BUNNY EARSaBRIDE $ VEILaPERSON $ BLOND HAIRaMAN $ GUA PI MAOcTURBANaOLDER MANbWOMANaBABY
aCONSTRUCTION WORKERaPRINCESSaJAPANESE OGREbGOBLINaGHOSTaBABY ANGELaEXTRATERRESTRIAL ALIEN
aALIEN MONSTERaIMPaSKULLaINFORMATION DESK PERSONaGUARDSMANaDANCERaLIPSTICKaNAIL POLISH
aFACE MASSAGEaHAIRCUTaBARBER POLEaSYRINGEaPILLaKISS raLOVE !aRINGaGEM STONEaKISSaBOUQUET
aCOUPLE $ HEARTaWEDDINGaBEATING HEARTaBROKEN HEARTaTWO HEARTSaSPARKLING HEARTaGROWING HEART
aHEART $ )aBLUE HEARTaGREEN HEARTaYELLOW HEARTaPURPLE HEARTaHEART $ RIBBONaREVOLVING HEARTS
aHEART DECORATIONaDIAMOND SHAPE $ A DOT INSIDEaELECTRIC LIGHT BULBaANGER naBOMBaSLEEPING n
aCOLLISION naSPLASHING SWEAT naDROPLETaDASH naPILE OF POOaFLEXED BICEPSaDIZZY naSPEECH BALLOON
aTHOUGHT BALLOONaq FLOWERat POINTS naMONEY BAGaCURRENCY EXCHANGEay DOLLAR *aCREDIT CARD
aBANKNOTE $ YEN *cDOLLAR *cEURO *cPOUND *aMONEY $ WINGSaCHART $ UPWARDS TREND > YEN *aSEAT
aPERSONAL COMPUTERaBRIEFCASEaMINIDISCaFLOPPY DISKaOPTICAL DISCaDVDaFILE FOLDERaOPEN FILE FOLDER
aPAGE $ CURLbFACING UPaCALENDARaTEAR-OFF CALENDARaCARD INDEXaCHART $ UPWARDS TRENDcu TREND
aBAR CHARTaCLIPBOARDaPUSHPINaROUND PUSHPINaPAPERCLIPaSTRAIGHT RULERaTRIANGULAR RULER
aBOOKMARK TABSaLEDGERaNOTEBOOKaNOTEBOOK $ DECORATIVE COVERaCLOSED BOOKaOPEN BOOKaGREEN BOOK
aBLUE BOOKaORANGE BOOKaBOOKSaNAME BADGEaSCROLLaMEMOaTELEPHONE RECEIVERaPAGERaFAX MACHINE
aSATELLITE ANTENNAaPUBLIC ADDRESS LOUDSPEAKERaCHEERING MEGAPHONEaOUTBOX TRAYaINBOX TRAYaPACKAGE
aE-MAIL naINCOMING ENVELOPEaENVELOPE $ u ) ,aCLOSED MAILBOX $ LOWERED FLAGdRAISED FLAG
aOPEN MAILBOX $ RAISED FLAGdLOWERED FLAGaPOSTBOXaPOSTAL HORNaNEWSPAPERaMOBILE PHONE
bPHONE $ / ) AT ;aVIBRATION MODEaMOBILE PHONE OFFaNO MOBILE PHONESaANTENNA $ BARSaCAMERA
aCAMERA $ FLASHaVIDEO CAMERAaTELEVISIONaRADIOaVIDEOCASSETTEaFILM PROJECTORaPORTABLE STEREO
aPRAYER BEADSaTWISTED / ARROWSaCLOCKWISE / > ^ OPEN CIRCLE ARROWSgARROWS $ CIRCLED ONE OVERLAY
bu > UPWARDS OPEN CIRCLE ARROWSaANTICLOCKWISE u > UPWARDS OPEN CIRCLE ARROWSaLOW BRIGHTNESS n
aHIGH BRIGHTNESS naSPEAKER $ CANCELLATION maSPEAKERaSPEAKER $ ONE SOUND WAVEc| SOUND WAVES
aBATTERYaELECTRIC PLUGaLEFT-POINTING MAGNIFYING GLASSaRIGHT-POINTING MAGNIFYING GLASS
aLOCK $ INK PENaCLOSED LOCK $ KEYaKEYaLOCKaOPEN LOCKaBELLaBELL $ CANCELLATION maBOOKMARKaLINK n
aRADIO BUTTONaBACK $ ^ ) ,aEND $ ^ ) ,aON $ EXCLAMATION r $ ; + ) ,aSOON $ / ) ,
aTOP $ UPWARDS ) ,aNO ONE UNDER EIGHTEEN naKEYCAP TENaINPUT n FOR LATIN % LETTERSe& LETTERS
dNUMBERSdSYMBOLSdLATIN LETTERSaFIREaELECTRIC TORCHaWRENCHaHAMMERaNUT > BOLTaHOCHOaPISTOL
aMICROSCOPEaTELESCOPEaCRYSTAL BALLaSIX POINTED STAR $ s DOTaJAPANESE n FOR BEGINNER
aTRIDENT EMBLEMao SQUARE BUTTONaq SQUARE BUTTONaLARGE RED CIRCLEbBLUE CIRCLEbORANGE DIAMOND
bBLUE DIAMONDa& ORANGE DIAMONDbBLUE DIAMONDaUP-POINTING RED TRIANGLEaDOWN-POINTING RED TRIANGLE
aUP-POINTING & RED TRIANGLEaDOWN-POINTING & RED TRIANGLEaLOWER + SHADOWED q CIRCLE
aUPPER + SHADOWED q CIRCLEaCIRCLED CROSS POMMEEaCROSS POMMEE $ HALF-CIRCLE <bPOMMEE
aNOTCHED ; SEMICIRCLE $ | DOTSb+ SEMICIRCLE $ | DOTSan FOR MARKS CHAPTERaq LATIN CROSS
ay LATIN CROSSaCELTIC CROSSaOM naDOVE OF PEACEaKAABAaMOSQUEaSYNAGOGUEaMENORAH $ NINE BRANCHES
aBOWL OF HYGIEIAaCLOCK FACE ONE OCLOCKcTWO OCLOCKc| OCLOCKcFOUR OCLOCKcFIVE OCLOCKcSIX OCLOCK
cSEVEN OCLOCKcEIGHT OCLOCKcNINE OCLOCKcTEN OCLOCKcELEVEN OCLOCKcTWELVE OCLOCKcONE-THIRTY
cTWO-THIRTYcTHREE-THIRTYcFOUR-THIRTYcFIVE-THIRTYcSIX-THIRTYcSEVEN-THIRTYcEIGHT-THIRTYcNINE-THIRTY
cTEN-THIRTYcELEVEN-THIRTYcTWELVE-THIRTYa+ SPEAKERbSPEAKER $ ONE SOUND WAVEd| SOUND WAVESaBULLHORN
aBULLHORN $ SOUND WAVESaRINGING BELLaBOOKaCANDLEaMANTELPIECE CLOCKao SKULL > CROSSBONESaNO PIRACY
aHOLEaMAN IN BUSINESS SUIT LEVITATINGaSLEUTH OR SPYaDARK SUNGLASSESaSPIDERaSPIDER WEBaJOYSTICK
aMAN DANCINGa; HAND TELEPHONE RECEIVERaTELEPHONE RECEIVER $ PAGEa+ HAND TELEPHONE RECEIVER
aq TOUCHTONE TELEPHONEao TOUCHTONE TELEPHONEaTELEPHONE ON TOP OF MODEMaCLAMSHELL MOBILE PHONE
aBACK OF ENVELOPEaSTAMPED ENVELOPEaENVELOPE $ LIGHTNINGaFLYING ENVELOPEaPEN OVER STAMPED ENVELOPE
aLINKED PAPERCLIPSao PUSHPINaLOWER ; PENCILcBALLPOINT PENcFOUNTAIN PENcPAINTBRUSHcCRAYON
a; WRITING HANDaTURNED OK HAND *aRAISED HAND $ FINGERS SPLAYED
aREVERSED RAISED HAND $ FINGERS SPLAYEDbTHUMBS UP *cDOWN *bVICTORY HANDbHAND $ s FINGER EXTENDED
aRAISED HAND $ PART BETWEEN s > RING FINGERSaq DOWN POINTING ; HAND INDEX
aSIDEWAYS q ; POINTING INDEXc+ POINTING INDEXbo ; POINTING INDEXc+ POINTING INDEX
ao ; POINTING BACKHAND INDEXb+ POINTING BACKHAND INDEXaSIDEWAYS q UP POINTING INDEX
cDOWN POINTING INDEXbo UP POINTING INDEXcDOWN POINTING INDEXao UP POINTING BACKHAND INDEX
bDOWN POINTING BACKHAND INDEXbHEARTaDESKTOP COMPUTERaKEYBOARD > MOUSEa| NETWORKED COMPUTERS
aPRINTERaPOCKET CALCULATORao HARD SHELL FLOPPY DISKaq HARD SHELL FLOPPY DISK
aSOFT SHELL FLOPPY DISKaTAPE CARTRIDGEaWIRED KEYBOARDaONE BUTTON MOUSEaTWO BUTTON MOUSE
a| BUTTON MOUSEaTRACKBALLaOLD PERSONAL COMPUTERaHARD DISKaSCREENaPRINTER ICONaFAX ICON
aOPTICAL DISC ICONaDOCUMENT $ TEXTcTEXT > PICTUREcPICTUREaFRAME $ PICTUREcTILEScAN Xao FOLDER
aFOLDERaOPEN FOLDERaCARD INDEX DIVIDERSbFILE BOXaFILE CABINETaEMPTY NOTEbNOTE PAGEcPADaNOTE
aNOTE PAGEbPADaEMPTY DOCUMENTbPAGEbPAGESaDOCUMENTaPAGEaPAGESaWASTEBASKETaSPIRAL NOTE PAD
bCALENDAR PADaDESKTOP WINDOWaMINIMIZEaMAXIMIZEaOVERLAPaCLOCKWISE + > ; SEMICIRCLE ARROWS
aCANCELLATION XaINCREASE FONT SIZE naDECREASE FONT SIZE naCOMPRESSIONaOLD KEYaROLLED-UP NEWSPAPER
aPAGE $ CIRCLED TEXTaSTOCK CHARTaDAGGER KNIFEaLIPSaSPEAKING HEAD IN SILHOUETTEa| RAYS ,c<c;c+
a; SPEECH BUBBLEa+ SPEECH BUBBLEaTWO SPEECH BUBBLESa| SPEECH BUBBLESa; THOUGHT BUBBLE
a+ THOUGHT BUBBLEa; ANGER BUBBLEa+ ANGER BUBBLEaMOOD BUBBLEaLIGHTNING MOOD BUBBLEbMOOD
aBALLOT BOX $ BALLOTbSCRIPT XbBOX $ SCRIPT XbBOLD SCRIPT XbBOX $ BOLD SCRIPT XaLIGHT CHECK r
aBALLOT BOX $ BOLD CHECKaWORLD MAPaMOUNT FUJIaTOKYO TOWERaSTATUE OF LIBERTYaSILHOUETTE OF JAPAN
aMOYAIaGRINNING FACEbFACE $ SMILING EYESaFACE $ TEARS OF JOYaSMILING FACE $ OPEN MOUTH
eMOUTH > SMILING EYESgCOLD SWEATgTIGHTLY-CLOSED EYESdHALOdHORNSaWINKING FACE
aSMILING FACE $ SMILING EYESaFACE SAVOURING DELICIOUS FOODaRELIEVED FACE
aSMILING FACE $ HEART-SHAPED EYESdSUNGLASSESaSMIRKING FACEaNEUTRAL FACEaEXPRESSIONLESS FACE
aUNAMUSED FACEaFACE $ COLD SWEATaPENSIVE FACEaCONFUSED FACEaCONFOUNDED FACEaKISSING FACE
aFACE THROWING A KISSaKISSING FACE $ SMILING EYESdCLOSED EYESaFACE $ STUCK-OUT TONGUE
dTONGUE > WINKING EYEfTIGHTLY-CLOSED EYESaDISAPPOINTED FACEaWORRIED FACEaANGRY FACEaPOUTING FACE
aCRYING FACEaPERSEVERING FACEaFACE $ LOOK OF TRIUMPHaDISAPPOINTED BUT RELIEVED FACE
aFROWNING FACE $ OPEN MOUTHaANGUISHED FACEaFEARFUL FACEaWEARY FACEaSLEEPY FACEaTIRED FACE
aGRIMACING FACEaLOUDLY CRYING FACEaFACE $ OPEN MOUTHaHUSHED FACEaFACE $ OPEN MOUTH > COLD SWEAT
bSCREAMING IN FEARaASTONISHED FACEaFLUSHED FACEaSLEEPING FACEaDIZZY FACEaFACE WITHOUT MOUTH
b$ MEDICAL MASKaGRINNING CAT FACE $ SMILING EYESaCAT FACE $ TEARS OF JOY
aSMILING CAT FACE $ OPEN MOUTHeHEART-SHAPED EYESaCAT FACE $ WRY SMILE
aKISSING CAT FACE $ CLOSED EYESaPOUTING CAT FACEaCRYING CAT FACEaWEARY CAT FACE
aSLIGHTLY FROWNING FACEbSMILING FACEaUPSIDE-DOWN FACEaFACE $ ROLLING EYEScNO GOOD GESTURE
cOK GESTUREaPERSON BOWING DEEPLYaSEE-NO-EVIL MONKEYaHEAR-NO-EVIL MONKEYaSPEAK-NO-EVIL MONKEY
aHAPPY PERSON RAISING ONE HANDaPERSON RAISING BOTH HANDS IN CELEBRATIONbFROWNINGb$ POUTING FACE
cFOLDED HANDSaNORTH WEST POINTING LEAFaSOUTH WEST POINTING LEAFaNORTH EAST POINTING LEAF
aSOUTH EAST POINTING LEAFaTURNED NORTH WEST POINTING LEAFbSOUTH WEST POINTING LEAF
bNORTH EAST POINTING LEAFbSOUTH EAST POINTING LEAFaNORTH WEST POINTING VINE LEAF
aSOUTH WEST POINTING VINE LEAFaNORTH EAST POINTING VINE LEAFaSOUTH EAST POINTING VINE LEAF
ay NORTH WEST POINTING VINE LEAFbSOUTH WEST POINTING VINE LEAFbNORTH EAST POINTING VINE LEAF
bSOUTH EAST POINTING VINE LEAFaNORTH WEST POINTING BUDaSOUTH WEST POINTING BUD
aNORTH EAST POINTING BUDaSOUTH EAST POINTING BUDay NORTH WEST POINTING BUD
bSOUTH WEST POINTING BUDbNORTH EAST POINTING BUDbSOUTH EAST POINTING BUD
aHOLLOW QUILT SQUARE ORNAMENTdORNAMENT IN o SQUAREaSOLID QUILT SQUARE ORNAMENT
dORNAMENT IN o SQUAREa^ ROCKETaUPWARDS ROCKETa/ ROCKETau ROCKETaSCRIPT LIGATURE ET ORNAMENT
ay SCRIPT LIGATURE ET ORNAMENTaLIGATURE OPEN ET ORNAMENTay LIGATURE OPEN ET ORNAMENT
bAMPERSAND ORNAMENTaSWASH AMPERSAND ORNAMENTaSANS-SERIF y : TURNED COMMA QUOTATION r ORNAMENT
dCOMMA QUOTATION r ORNAMENTcLOW : COMMA QUOTATION r ORNAMENTay INTERROBANG ORNAMENT
aSANS-SERIF INTERROBANG ORNAMENTay SANS-SERIF INTERROBANG ORNAMENTaVERY y SOLIDUScREVERSE SOLIDUS
aCHECKER BOARDaREVERSE CHECKER BOARDaROCKETaHELICOPTERaSTEAM LOCOMOTIVEaRAILWAY CAR
aHIGH-SPEED TRAINbTRAIN $ BULLET NOSEaTRAINaMETROaLIGHT RAILaSTATIONaTRAMaTRAM CARaBUS
aONCOMING BUSaTROLLEYBUSaBUS STOPaMINIBUSaAMBULANCEaFIRE ENGINEaPOLICE CARaONCOMING POLICE CAR
aTAXIaONCOMING TAXIaAUTOMOBILEaONCOMING AUTOMOBILEaRECREATIONAL VEHICLEaDELIVERY TRUCK
aARTICULATED LORRYaTRACTORaMONORAILaMOUNTAIN RAILWAYaSUSPENSION RAILWAYaMOUNTAIN CABLEWAY
aAERIAL TRAMWAYaSHIPaROWBOATaSPEEDBOATap TRAFFIC LIGHTa? TRAFFIC LIGHTaCONSTRUCTION *
aPOLICE CARS REVOLVING LIGHTaTRIANGULAR FLAG ON POSTaDOORaNO ENTRY *aSMOKING naNO SMOKING n
aPUT LITTER IN ITS PLACE naDO NOT LITTER naPOTABLE WATER naNON-POTABLE WATER naBICYCLE
aNO BICYCLESaBICYCLISTaMOUNTAIN BICYCLISTaPEDESTRIANaNO PEDESTRIANSaCHILDREN CROSSINGaMENS n
aWOMENS naRESTROOMaBABY naTOILETaWATER CLOSETaSHOWERaBATHaBATHTUBaPASSPORT CONTROLaCUSTOMS
aBAGGAGE CLAIMa; LUGGAGEaTRIANGLE $ ROUNDED CORNERSaPROHIBITED *aCIRCLED INFORMATION SOURCE
aBOYS naGIRLS naCOUCH > LAMPaSLEEPING ACCOMMODATIONaSHOPPING BAGSaBELLHOP BELLaBED
aPLACE OF WORSHIPaOCTAGONAL *aSHOPPING TROLLEYaSTUPAaPAGODAaHINDU TEMPLEaHUTaELEVATOR"⟩,
  ⟨0x1f6dc, "aWIRELESS"⟩,
  ⟨0x1f6dd, "aPLAYGROUND SLIDEaWHEELaRING BUOYaHAMMER > WRENCHaSHIELDaOIL DRUMaMOTORWAY
aRAILWAY TRACKaMOTOR BOATaUP-POINTING MILITARY AIRPLANEbAIRPLANEb& AIRPLANEa& AIRPLANE
aNORTHEAST-POINTING AIRPLANEaAIRPLANE DEPARTUREbARRIVING"⟩,
  ⟨0x1f6f0, "aSATELLITEaONCOMING FIRE ENGINEaDIESEL LOCOMOTIVEaPASSENGER SHIPaSCOOTER
aMOTOR SCOOTERaCANOEaSLEDaFLYING SAUCERaSKATEBOARDaAUTO RICKSHAWaPICKUP TRUCKaROLLER SKATE"⟩,
  ⟨0x1f700, "aALCHEMICAL n FOR QUINTESSENCEdAIRdFIREdEARTHdWATERdAQUAFORTISdAQUA REGIAeREGIA-2
eVITAEeVITAE-2dVINEGARdVINEGAR-2zdSULFURdPHILOSOPHERS SULFURdo SULFURdMERCURY SUBLIMATE
eSUBLIMATE-2zdCINNABARdSALTdNITREdVITRIOLdVITRIOL-2dROCK SALTeSALT-2dGOLDdSILVERdIRON OREeORE-2
dCROCUS OF IRONdREGULUS OF IRONdCOPPER OREdIRON-COPPER OREdSUBLIMATE OF COPPERdCROCUS OF COPPER
fCOPPER-2dCOPPER ANTIMONIATEdSALT OF COPPER ANTIMONIATEdSUBLIMATE OF SALT OF COPPERdVERDIGRIS
dTIN OREdLEAD OREdANTIMONY OREdSUBLIMATE OF ANTIMONYdSALT OF ANTIMONY
dSUBLIMATE OF SALT OF ANTIMONYdVINEGAR OF ANTIMONYdREGULUS OF ANTIMONYfANTIMONY-2dREGULUS
dREGULUS-2zzdALKALIdALKALI-2dMARCASITEdSAL-AMMONIACdARSENICdREALGARdREALGAR-2dAURIPIGMENT
dBISMUTH OREdTARTARdTARTAR-2dQUICK LIMEdBORAXdBORAX-2zdALUMdOILdSPIRITdTINCTUREdGUMdWAXdPOWDER
dCALXdTUTTYdCAPUT MORTUUMdSCEPTER OF JOVEdCADUCEUSdTRIDENTdSTARRED TRIDENTdLODESTONEdSOAPdURINE
dHORSE DUNGdASHESdPOT ASHESdBRICKdPOWDERED BRICKdAMALGAMdSTRATUM SUPER STRATUMfSTRATUM-2
dSUBLIMATIONdPRECIPITATEdDISTILLdDISSOLVEdDISSOLVE-2dPURIFYdPUTREFACTIONdCRUCIBLEdCRUCIBLE-2zzz
dALEMBICdBATH OF MARYfVAPOURSdRETORTdHOURdNIGHTdDAY-NIGHTdMONTHdHALF DRAMeOUNCE"⟩,
  ⟨0x1f774, "aLOT OF FORTUNEaOCCULTATIONaLUNAR ECLIPSE"⟩,
  ⟨0x1f77b, "aHAUMEAaMAKEMAKEaGONGGONGaQUAOARaORCUS"⟩,
  ⟨0x1f780, "ao LEFT-POINTING ISOSCELES + TRIANGLEbUP-POINTING ISOSCELES + TRIANGLE
bRIGHT-POINTING ISOSCELES + TRIANGLEbDOWN-POINTING ISOSCELES + TRIANGLEbSLIGHTLY & CIRCLE
aMEDIUM BOLD q CIRCLEaBOLD q CIRCLEay q CIRCLEaVERY y q CIRCLEaEXTREMELY y q CIRCLE
aq CIRCLE CONTAINING o & CIRCLEaROUND TARGETao TINY SQUAREbSLIGHTLY & SQUAREaLIGHT q SQUARE
aMEDIUM q SQUAREaBOLD q SQUAREay q SQUAREaVERY y q SQUAREaEXTREMELY y q SQUARE
aq SQUARE CONTAINING o VERY & SQUAREeMEDIUM SQUAREaSQUARE TARGETao TINY DIAMONDbVERY & DIAMOND
bMEDIUM & DIAMONDaq DIAMOND CONTAINING o VERY & DIAMONDeMEDIUM DIAMONDaDIAMOND TARGET
ao TINY LOZENGEbVERY & LOZENGEbMEDIUM & LOZENGEaq LOZENGE CONTAINING o & LOZENGEaTHIN GREEK CROSS
aLIGHT GREEK CROSSaMEDIUM GREEK CROSSaBOLD GREEK CROSSaVERY BOLD GREEK CROSSby GREEK CROSS
aEXTREMELY y GREEK CROSSaTHIN SALTIREaLIGHT SALTIREaMEDIUM SALTIREaBOLD SALTIREay SALTIRE
aVERY y SALTIREaEXTREMELY y SALTIREaLIGHT FIVE SPOKED ASTERISKaMEDIUM FIVE SPOKED ASTERISK
aBOLD FIVE SPOKED ASTERISKay FIVE SPOKED ASTERISKaVERY y FIVE SPOKED ASTERISK
aEXTREMELY y FIVE SPOKED ASTERISKaLIGHT SIX SPOKED ASTERISKaMEDIUM SIX SPOKED ASTERISK
aBOLD SIX SPOKED ASTERISKay SIX SPOKED ASTERISKaVERY y SIX SPOKED ASTERISK
aEXTREMELY y SIX SPOKED ASTERISKaLIGHT EIGHT SPOKED ASTERISKaMEDIUM EIGHT SPOKED ASTERISK
aBOLD EIGHT SPOKED ASTERISKay EIGHT SPOKED ASTERISKaVERY y EIGHT SPOKED ASTERISK
aLIGHT | POINTED o STARaMEDIUM | POINTED o STARa| POINTED o STARaMEDIUM | POINTED PINWHEEL STAR
aLIGHT FOUR POINTED o STARaMEDIUM FOUR POINTED o STARaFOUR POINTED o STAR
aMEDIUM FOUR POINTED PINWHEEL STARaREVERSE LIGHT FOUR POINTED PINWHEEL STAR
aLIGHT FIVE POINTED o STARay FIVE POINTED o STARaMEDIUM SIX POINTED o STARay SIX POINTED o STAR
aSIX POINTED PINWHEEL STARaMEDIUM EIGHT POINTED o STARay EIGHT POINTED o STAR
aVERY y EIGHT POINTED o STARay EIGHT POINTED PINWHEEL STARaLIGHT TWELVE POINTED o STAR
ay TWELVE POINTED o STARdPINWHEEL STARaCIRCLED TRIANGLEaNEGATIVE CIRCLED TRIANGLEaCIRCLED SQUARE
aNEGATIVE CIRCLED SQUARE"⟩,
  ⟨0x1f7d9, "aNINE POINTED q STAR"⟩,
  ⟨0x1f7e0, "aLARGE ORANGE CIRCLEbYELLOW CIRCLEbGREEN CIRCLEbPURPLE CIRCLEbBROWN CIRCLE
bRED SQUAREbBLUE SQUAREbORANGE SQUAREbYELLOW SQUAREbGREEN SQUAREbPURPLE SQUAREbBROWN SQUARE"⟩,
  ⟨0x1f7f0, "ay EQUALS *"⟩,
  ⟨0x1f800, "a^ ) $ & TRIANGLE ARROWHEADaUPWARDS ) $ & TRIANGLE ARROWHEAD
a/ ) $ & TRIANGLE ARROWHEADau ) $ & TRIANGLE ARROWHEADa^ ) $ MEDIUM TRIANGLE ARROWHEAD
aUPWARDS ) $ MEDIUM TRIANGLE ARROWHEADa/ ) $ MEDIUM TRIANGLE ARROWHEAD
au ) $ MEDIUM TRIANGLE ARROWHEADa^ ) $ LARGE TRIANGLE ARROWHEAD
aUPWARDS ) $ LARGE TRIANGLE ARROWHEADa/ ) $ LARGE TRIANGLE ARROWHEAD
au ) $ LARGE TRIANGLE ARROWHEAD"⟩,
  ⟨0x1f810, "a^ ) $ & EQUILATERAL ARROWHEADaUPWARDS ) $ & EQUILATERAL ARROWHEAD
a/ ) $ & EQUILATERAL ARROWHEADau ) $ & EQUILATERAL ARROWHEADa^ ) $ EQUILATERAL ARROWHEAD
aUPWARDS ) $ EQUILATERAL ARROWHEADa/ ) $ EQUILATERAL ARROWHEADau ) $ EQUILATERAL ARROWHEAD
ay ^ ) $ EQUILATERAL ARROWHEADbUPWARDS ) $ EQUILATERAL ARROWHEADb/ ) $ EQUILATERAL ARROWHEAD
bu ) $ EQUILATERAL ARROWHEADb^ ) $ LARGE EQUILATERAL ARROWHEAD
bUPWARDS ) $ LARGE EQUILATERAL ARROWHEADb/ ) $ LARGE EQUILATERAL ARROWHEAD
bu ) $ LARGE EQUILATERAL ARROWHEADa^ ~ ) $ NARROW SHAFTaUPWARDS ~ ) $ NARROW SHAFT
a/ ~ ) $ NARROW SHAFTau ~ ) $ NARROW SHAFTa^ ~ ) $ MEDIUM SHAFTaUPWARDS ~ ) $ MEDIUM SHAFT
a/ ~ ) $ MEDIUM SHAFTau ~ ) $ MEDIUM SHAFTa^ ~ ) $ BOLD SHAFTaUPWARDS ~ ) $ BOLD SHAFT
a/ ~ ) $ BOLD SHAFTau ~ ) $ BOLD SHAFTa^ ~ ) $ y SHAFTaUPWARDS ~ ) $ y SHAFTa/ ~ ) $ y SHAFT
au ~ ) $ y SHAFTa^ ~ ) $ VERY y SHAFTaUPWARDS ~ ) $ VERY y SHAFTa/ ~ ) $ VERY y SHAFT
au ~ ) $ VERY y SHAFTa^ FINGER-POST )aUPWARDS FINGER-POST )a/ FINGER-POST )au FINGER-POST )
a^ SQUARED )aUPWARDS SQUARED )a/ SQUARED )au SQUARED )a^ COMPRESSED )aUPWARDS COMPRESSED )
a/ COMPRESSED )au COMPRESSED )a^ y COMPRESSED )aUPWARDS y COMPRESSED )a/ y COMPRESSED )
au y COMPRESSED )a^ y )aUPWARDS y )a/ y )au y )"⟩,
  ⟨0x1f850, "a^ SANS-SERIF )aUPWARDS SANS-SERIF )a/ SANS-SERIF )au SANS-SERIF )
aNORTH WEST SANS-SERIF )bEAST SANS-SERIF )aSOUTH EAST SANS-SERIF )bWEST SANS-SERIF )
a; + SANS-SERIF )aUP DOWN SANS-SERIF )"⟩,
  ⟨0x1f860, "aWIDE-HEADED ^ LIGHT BARB )bUPWARDS LIGHT BARB )b/ LIGHT BARB )bu LIGHT BARB )
bNORTH WEST LIGHT BARB )cEAST LIGHT BARB )bSOUTH EAST LIGHT BARB )cWEST LIGHT BARB )b^ BARB )
bUPWARDS BARB )b/ BARB )bu BARB )bNORTH WEST BARB )cEAST BARB )bSOUTH EAST BARB )cWEST BARB )
b^ MEDIUM BARB )bUPWARDS MEDIUM BARB )b/ MEDIUM BARB )bu MEDIUM BARB )bNORTH WEST MEDIUM BARB )
cEAST MEDIUM BARB )bSOUTH EAST MEDIUM BARB )cWEST MEDIUM BARB )b^ y BARB )bUPWARDS y BARB )
b/ y BARB )bu y BARB )bNORTH WEST y BARB )cEAST y BARB )bSOUTH EAST y BARB )cWEST y BARB )
b^ VERY y BARB )bUPWARDS VERY y BARB )b/ VERY y BARB )bu VERY y BARB )bNORTH WEST VERY y BARB )
cEAST VERY y BARB )bSOUTH EAST VERY y BARB )cWEST VERY y BARB )"⟩,
  ⟨0x1f890, "a^ TRIANGLE ARROWHEADaUPWARDS TRIANGLE ARROWHEADa/ TRIANGLE ARROWHEAD
au TRIANGLE ARROWHEADa^ q ) WITHIN TRIANGLE ARROWHEADaUPWARDS q ) WITHIN TRIANGLE ARROWHEAD
a/ q ) WITHIN TRIANGLE ARROWHEADau q ) WITHIN TRIANGLE ARROWHEADa^ ) $ NOTCHED TAIL
aUPWARDS ) $ NOTCHED TAILa/ ) $ NOTCHED TAILau ) $ NOTCHED TAILay ) SHAFT WIDTH ONEeTWO THIRDS
eONE HALFfTHIRDa^ BOTTOM-SHADED q )a/ BOTTOM SHADED q )a^ TOP SHADED q )a/ TOP SHADED q )
a^ LEFT-SHADED q )a/ RIGHT-SHADED q )a^ RIGHT-SHADED q )a/ LEFT-SHADED q )
a^ BACK-TILTED SHADOWED q )a/ BACK-TILTED SHADOWED q )a^ FRONT-TILTED SHADOWED q )
a/ FRONT-TILTED SHADOWED q )aq ) SHAFT WIDTH ONEeTWO THIRDS"⟩,
  ⟨0x1f8b0, "a) POINTING UPWARDS THEN NORTH WESTc/ THEN CURVING SOUTH WEST"⟩,
  ⟨0x1f900, "aCIRCLED CROSS FORMEE $ FOUR DOTSeTWO DOTScFORMEEa; HALF CIRCLE $ FOUR DOTSe| DOTS
eTWO DOTSeDOTcCIRCLEaDOWNWARD FACING HOOKcNOTCHED HOOKcHOOK $ DOTcNOTCHED HOOK $ DOT
aPINCHED FINGERSaq HEARTaBROWN HEARTaPINCHING HANDaZIPPER-MOUTH FACEaMONEY-MOUTH FACE
aFACE $ THERMOMETERaNERD FACEaTHINKING FACEaFACE $ HEAD-BANDAGEaROBOT FACEaHUGGING FACE
a* OF THE HORNSaCALL ME HANDaRAISED BACK OF HANDaLEFT-FACING FISTaRIGHT-FACING FISTaHANDSHAKE
aHAND $ INDEX > s FINGERS CROSSEDaI LOVE YOU HAND *aFACE $ COWBOY HATaCLOWN FACEaNAUSEATED FACE
aROLLING ON THE FLOOR LAUGHINGaDROOLING FACEaLYING FACEaFACE PALMaSNEEZING FACE
aFACE $ ONE EYEBROW RAISEDaGRINNING FACE $ STAR EYESdONE LARGE > ONE & EYE
aFACE $ FINGER COVERING CLOSED LIPSaSERIOUS FACE $ SYMBOLS COVERING MOUTH
aSMILING FACE $ SMILING EYES > HAND COVERING MOUTHaFACE $ OPEN MOUTH VOMITING
aSHOCKED FACE $ EXPLODING HEADaPREGNANT WOMANaBREAST-FEEDINGaPALMS UP TOGETHERaSELFIEaPRINCE
aMAN IN TUXEDOaMOTHER CHRISTMASaSHRUGaPERSON DOING CARTWHEELaJUGGLINGaFENCERaMODERN PENTATHLON
aWRESTLERSaWATER POLOaHANDBALLaDIVING MASKaWILTED FLOWERaDRUM $ DRUMSTICKSaCLINKING GLASSES
aTUMBLER GLASSaSPOONaGOAL NETaRIFLEaFIRST PLACE MEDALaSECOND PLACE MEDALaTHIRD PLACE MEDAL
aBOXING GLOVEaMARTIAL ARTS UNIFORMaCURLING STONEaLACROSSE STICK > BALLaSOFTBALLaFLYING DISC
aCROISSANTaAVOCADOaCUCUMBERaBACONaPOTATOaCARROTaBAGUETTE BREADaGREEN SALADaSHALLOW PAN OF FOOD
aSTUFFED FLATBREADaEGGaGLASS OF MILKaPEANUTSaKIWIFRUITaPANCAKESaDUMPLINGaFORTUNE COOKIE
aTAKEOUT BOXaCHOPSTICKSaBOWL $ SPOONaCUP $ STRAWaCOCONUTaBROCCOLIaPIEaPRETZELaCUT OF MEAT
aSANDWICHaCANNED FOODaLEAFY GREENaMANGOaMOON CAKEaBAGELaSMILING FACE $ SMILING EYES > | HEARTS
aYAWNING FACEaSMILING FACE $ TEARaFACE $ PARTY HORN > PARTY HATcUNEVEN EYES > WAVY MOUTH
aOVERHEATED FACEaFREEZING FACEaNINJAaDISGUISED FACEaFACE HOLDING BACK TEARSb$ PLEADING EYESaSARI
aLAB COATaGOGGLESaHIKING BOOTaFLAT SHOEaCRABaLION FACEaSCORPIONaTURKEYaUNICORN FACEaEAGLEaDUCK
aBATaSHARKaOWLaFOX FACEaBUTTERFLYaDEERaGORILLAaLIZARDaRHINOCEROSaSHRIMPaSQUIDaGIRAFFE FACE
aZEBRA FACEaHEDGEHOGaSAUROPODaT-REXaCRICKETaKANGAROOaLLAMAaPEACOCKaHIPPOPOTAMUSaPARROTaRACCOON
aLOBSTERaMOSQUITOaMICROBEaBADGERaSWANaMAMMOTHaDODOaSLOTHaOTTERaORANGUTANaSKUNKaFLAMINGOaOYSTER
aBEAVERaBISONaSEALaGUIDE DOGaPROBING CANEaEMOJI COMPONENT RED HAIRcCURLY HAIRcBALDcq HAIRaBONE
aLEGaFOOTaTOOTHaSUPERHEROaSUPERVILLAINaSAFETY VESTaEAR $ HEARING AIDaMOTORIZED WHEELCHAIR
aMANUAL WHEELCHAIRaMECHANICAL ARMbLEGaCHEESE WEDGEaCUPCAKEaSALT SHAKERaBEVERAGE BOXaGARLICaONION
aFALAFELaWAFFLEaBUTTERaMATE DRINKaICE CUBEaBUBBLE TEAaTROLLaSTANDING PERSONaKNEELING PERSON
aDEAF PERSONaFACE $ MONOCLEaADULTaCHILDaOLDER ADULTaBEARDED PERSONaPERSON $ HEADSCARF
bIN STEAMY ROOMbCLIMBINGbIN LOTUS POSITIONaMAGEaFAIRYaVAMPIREaMERPERSONaELFaGENIEaZOMBIEaBRAIN
aORANGE HEARTaBILLED CAPaSCARFaGLOVESaCOATaSOCKSaRED GIFT ENVELOPEaFIRECRACKER
aJIGSAW PUZZLE PIECEaTEST TUBEaPETRI DISHaDNA : HELIXaCOMPASSaABACUSaFIRE EXTINGUISHERaTOOLBOX
aBRICKaMAGNETaLUGGAGEaLOTION BOTTLEaSPOOL OF THREADaBALL OF YARNaSAFETY PINaTEDDY BEARaBROOM
aBASKETaROLL OF PAPERaBAR OF SOAPaSPONGEaRECEIPTaNAZAR AMULETaNEUTRAL CHESS KINGcQUEENcROOK
cBISHOPcKNIGHTcPAWNaq CHESS KNIGHT ROTATED FORTY-FIVE DEGREES
ao CHESS KNIGHT ROTATED FORTY-FIVE DEGREESaNEUTRAL CHESS KNIGHT ROTATED FORTY-FIVE DEGREES
aq CHESS KING ROTATED NINETY DEGREEScQUEEN ROTATED NINETY DEGREEScROOK ROTATED NINETY DEGREES
cBISHOP ROTATED NINETY DEGREEScKNIGHT ROTATED NINETY DEGREEScPAWN ROTATED NINETY DEGREES
ao CHESS KING ROTATED NINETY DEGREEScQUEEN ROTATED NINETY DEGREEScROOK ROTATED NINETY DEGREES
cBISHOP ROTATED NINETY DEGREEScKNIGHT ROTATED NINETY DEGREEScPAWN ROTATED NINETY DEGREES
aNEUTRAL CHESS KING ROTATED NINETY DEGREEScQUEEN ROTATED NINETY DEGREES
cROOK ROTATED NINETY DEGREEScBISHOP ROTATED NINETY DEGREEScKNIGHT ROTATED NINETY DEGREES
cPAWN ROTATED NINETY DEGREESaq CHESS KNIGHT ROTATED ONE t THIRTY-FIVE DEGREES
ao CHESS KNIGHT ROTATED ONE t THIRTY-FIVE DEGREES
aNEUTRAL CHESS KNIGHT ROTATED ONE t THIRTY-FIVE DEGREESaq CHESS TURNED KINGdQUEENdROOKdBISHOP
dKNIGHTdPAWNao CHESS TURNED KINGdQUEENdROOKdBISHOPdKNIGHTdPAWNaNEUTRAL CHESS TURNED KINGdQUEEN
dROOKdBISHOPdKNIGHTdPAWNaq CHESS KNIGHT ROTATED TWO t TWENTY-FIVE DEGREES
ao CHESS KNIGHT ROTATED TWO t TWENTY-FIVE DEGREES
aNEUTRAL CHESS KNIGHT ROTATED TWO t TWENTY-FIVE DEGREES
aq CHESS KING ROTATED TWO t SEVENTY DEGREEScQUEEN ROTATED TWO t SEVENTY DEGREES
cROOK ROTATED TWO t SEVENTY DEGREEScBISHOP ROTATED TWO t SEVENTY DEGREES
cKNIGHT ROTATED TWO t SEVENTY DEGREEScPAWN ROTATED TWO t SEVENTY DEGREES
ao CHESS KING ROTATED TWO t SEVENTY DEGREEScQUEEN ROTATED TWO t SEVENTY DEGREES
cROOK ROTATED TWO t SEVENTY DEGREEScBISHOP ROTATED TWO t SEVENTY DEGREES
cKNIGHT ROTATED TWO t SEVENTY DEGREEScPAWN ROTATED TWO t SEVENTY DEGREES
aNEUTRAL CHESS KING ROTATED TWO t SEVENTY DEGREEScQUEEN ROTATED TWO t SEVENTY DEGREES
cROOK ROTATED TWO t SEVENTY DEGREEScBISHOP ROTATED TWO t SEVENTY DEGREES
cKNIGHT ROTATED TWO t SEVENTY DEGREEScPAWN ROTATED TWO t SEVENTY DEGREES
aq CHESS KNIGHT ROTATED | t FIFTEEN DEGREESao CHESS KNIGHT ROTATED | t FIFTEEN DEGREES
aNEUTRAL CHESS KNIGHT ROTATED | t FIFTEEN DEGREESaq CHESS EQUIHOPPERao CHESS EQUIHOPPER
aNEUTRAL CHESS EQUIHOPPERaq CHESS EQUIHOPPER ROTATED NINETY DEGREES
ao CHESS EQUIHOPPER ROTATED NINETY DEGREESaNEUTRAL CHESS EQUIHOPPER ROTATED NINETY DEGREES
aq CHESS KNIGHT-QUEENcKNIGHT-ROOKcKNIGHT-BISHOPao CHESS KNIGHT-QUEENcKNIGHT-ROOKcKNIGHT-BISHOP"⟩,
  ⟨0x1fa60, "aXIANGQI RED GENERALcMANDARINcELEPHANTcHORSEcCHARIOTcCANNONcSOLDIERbo GENERAL
cMANDARINcELEPHANTcHORSEcCHARIOTcCANNONcSOLDIER"⟩,
  ⟨0x1fa70, "aBALLET SHOESaONE-PIECE SWIMSUITaBRIEFSaSHORTSaTHONG SANDAL"⟩,
  ⟨0x1fa75, "aLIGHT BLUE HEARTaGREY HEARTaPINK HEART"⟩,
  ⟨0x1fa78, "aDROP OF BLOODaADHESIVE BANDAGEaSTETHOSCOPEaX-RAYaCRUTCH"⟩,
  ⟨0x1fa80, "aYO-YOaKITEaPARACHUTEaBOOMERANGaMAGIC WANDaPINATAaNESTING DOLLS"⟩,
  ⟨0x1fa87, "aMARACASaFLUTE"⟩,
  ⟨0x1fa90, "aRINGED PLANETaCHAIRaRAZORaAXEaDIYA LAMPaBANJOaMILITARY HELMETaACCORDIONaLONG DRUM
aCOINaCARPENTRY SAWaSCREWDRIVERaLADDERaHOOKaMIRRORaWINDOWaPLUNGERaSEWING NEEDLEaKNOTaBUCKET
aMOUSE TRAPaTOOTHBRUSHaHEADSTONEaPLACARDaROCKaMIRROR BALLaIDENTIFICATION CARDaLOW BATTERYaHAMSA"⟩,
  ⟨0x1faad, "aFOLDING HAND FANaHAIR PICKaKHANDA"⟩,
  ⟨0x1fab0, "aFLYaWORMaBEETLEaCOCKROACHaPOTTED PLANTaWOODaFEATHERaLOTUSaCORALaEMPTY NEST
aNEST $ EGGS"⟩,
  ⟨0x1fabb, "aHYACINTHaJELLYFISHaWING"⟩,
  ⟨0x1fabf, "aGOOSE"⟩,
  ⟨0x1fac0, "aANATOMICAL HEARTaLUNGSaPEOPLE HUGGINGaPREGNANT MANbPERSONaPERSON $ CROWN"⟩,
  ⟨0x1face, "aMOOSEaDONKEY"⟩,
  ⟨0x1fad0, "aBLUEBERRIESaBELL PEPPERaOLIVEaFLATBREADaTAMALEaFONDUEaTEAPOTaPOURING LIQUIDaBEANS
aJAR"⟩,
  ⟨0x1fada, "aGINGER ROOTaPEA POD"⟩,
  ⟨0x1fae0, "aMELTING FACEaSALUTING FACEaFACE $ OPEN EYES > HAND OVER MOUTHcPEEKING EYE
cDIAGONAL MOUTHaDOTTED LINE FACEaBITING LIPaBUBBLES"⟩,
  ⟨0x1fae8, "aSHAKING FACE"⟩,
  ⟨0x1faf0, "aHAND $ INDEX FINGER > THUMB CROSSEDa/ HANDa^ HANDaPALM DOWN HANDbUP HAND
aINDEX POINTING AT THE VIEWERaHEART HANDS"⟩,
  ⟨0x1faf7, "a^ PUSHING HANDa/ PUSHING HAND"⟩,
  ⟨0x1fb00, "aBLOCK SEXTANT-1zbSEXTANT-12bSEXTANT-3bSEXTANT-13bSEXTANT-23bSEXTANT-123bSEXTANT-4
bSEXTANT-14bSEXTANT-24bSEXTANT-124bSEXTANT-34bSEXTANT-134bSEXTANT-234bSEXTANT-1234bSEXTANT-5
bSEXTANT-15bSEXTANT-25bSEXTANT-125bSEXTANT-35bSEXTANT-235bSEXTANT-1235bSEXTANT-45bSEXTANT-145
bSEXTANT-245bSEXTANT-1245bSEXTANT-345bSEXTANT-1345bSEXTANT-2345bSEXTANT-12345bSEXTANT-6
bSEXTANT-16bSEXTANT-26bSEXTANT-126bSEXTANT-36bSEXTANT-136bSEXTANT-236bSEXTANT-1236bSEXTANT-46
bSEXTANT-146bSEXTANT-1246bSEXTANT-346bSEXTANT-1346bSEXTANT-2346bSEXTANT-12346bSEXTANT-56
bSEXTANT-156bSEXTANT-256bSEXTANT-1256bSEXTANT-356bSEXTANT-1356bSEXTANT-2356bSEXTANT-12356
bSEXTANT-456bSEXTANT-1456bSEXTANT-2456bSEXTANT-12456bSEXTANT-3456bSEXTANT-13456bSEXTANT-23456
aLOWER ; BLOCK DIAGONAL LOWER s ; TO LOWER CENTREj+eUPPER s ; TO LOWER CENTREj+f; TO LOWER CENTRE
b+ BLOCK DIAGONAL UPPER s ; TO UPPER CENTREj+eLOWER s ; TO UPPER CENTREj+f; TO UPPER CENTRE
fs ; TO UPPER s +fCENTRE TO LOWER s +f; TO LOWER s +fCENTRE TO UPPER s +f; TO UPPER s +
fCENTRE TO UPPER +b; BLOCK DIAGONAL UPPER CENTRE TO UPPER s +f; TO UPPER s +fCENTRE TO LOWER s +
f; TO LOWER s +fCENTRE TO LOWER +fs ; TO LOWER s +
aUPPER + BLOCK DIAGONAL LOWER s ; TO LOWER CENTREj+eUPPER s ; TO LOWER CENTREj+f; TO LOWER CENTRE
b; BLOCK DIAGONAL UPPER s ; TO UPPER CENTREj+eLOWER s ; TO UPPER CENTREj+f; TO UPPER CENTRE
fs ; TO UPPER s +fCENTRE TO LOWER s +f; TO LOWER s +fCENTRE TO UPPER s +f; TO UPPER s +
fCENTRE TO UPPER +b+ BLOCK DIAGONAL UPPER CENTRE TO UPPER s +f; TO UPPER s +fCENTRE TO LOWER s +
f; TO LOWER s +fCENTRE TO LOWER +fs ; TO LOWER s +b> + > LOWER TRIANGULAR | QUARTERS BLOCK
a; > LOWER > + TRIANGULAR | QUARTERS BLOCKaUPPER > ; > LOWER TRIANGULAR | QUARTERS BLOCK
a; > UPPER > + TRIANGULAR | QUARTERS BLOCKbTRIANGULAR ONE QUARTER BLOCK
aUPPER TRIANGULAR ONE QUARTER BLOCKa+ TRIANGULAR ONE QUARTER BLOCK
aLOWER TRIANGULAR ONE QUARTER BLOCKa? ONE EIGHTH BLOCK-2zzzzzap ONE EIGHTH BLOCK-2zzzzz
a; > LOWER ONE EIGHTH BLOCKcUPPER ONE EIGHTH BLOCKa+ > UPPER ONE EIGHTH BLOCK
cLOWER ONE EIGHTH BLOCKaUPPER > LOWER ONE EIGHTH BLOCKap ONE EIGHTH BLOCK-1358
aUPPER ONE QUARTER BLOCKb| EIGHTHS BLOCKbFIVE EIGHTHS BLOCKb| QUARTERS BLOCKbSEVEN EIGHTHS BLOCK
a+ ONE QUARTER BLOCKb| EIGHTHS BLOCKbFIVE EIGHTHS BLOCKb| QUARTERS BLOCKbSEVEN EIGHTHS BLOCK
a; HALF MEDIUM SHADEa+ HALF MEDIUM SHADEaUPPER HALF MEDIUM SHADEaLOWER HALF MEDIUM SHADE
aINVERSE MEDIUM SHADEaUPPER HALF BLOCK > LOWER HALF INVERSE MEDIUM SHADE
cINVERSE MEDIUM SHADE > LOWER HALF BLOCK"⟩,
  ⟨0x1fb94, "a; HALF INVERSE MEDIUM SHADE > + HALF BLOCKaCHECKER BOARD FILL
aINVERSE CHECKER BOARD FILLay p FILLaUPPER ; TO LOWER + FILLb+ TO LOWER ; FILL
b> LOWER TRIANGULAR HALF BLOCKa; > + TRIANGULAR HALF BLOCKaUPPER ; TRIANGULAR MEDIUM SHADE
b+ TRIANGULAR MEDIUM SHADEaLOWER + TRIANGULAR MEDIUM SHADEb; TRIANGULAR MEDIUM SHADE
aBOX DRAWINGS LIGHT DIAGONAL UPPER CENTRE TO s ;i+es ; TO LOWER CENTREf+ TO LOWER CENTRE
eUPPER CENTRE TO s ; TO LOWER CENTREi+ TO LOWER CENTREes ; TO LOWER CENTRE TO s +
hUPPER CENTRE TO s +eUPPER CENTRE TO s ; > s + TO LOWER CENTREi+ > s ; TO LOWER CENTRE
jTO LOWER CENTRE TO s ;i; TO LOWER CENTRE TO s +es ; TO UPPER CENTRE TO s + TO LOWER CENTRE
f+ TO UPPER CENTRE TO s ; TO LOWER CENTREeDIAMONDdp $ ? maARROWHEAD-SHAPED POINTER
aINVERSE CHECK ra; HALF RUNNING MANa+ HALF RUNNING MANaINVERSE u ) $ TIP ^
a^ ) > UPPER > LOWER ONE EIGHTH BLOCKa/ ) > UPPER > LOWER ONE EIGHTH BLOCK
au ) > + ONE EIGHTH BLOCKaUPWARDS ) > + ONE EIGHTH BLOCKa; HALF FOLDERa+ HALF FOLDER
aVOIDED GREEK CROSSa+ OPEN SQUARED DOTaNEGATIVE DIAGONAL CROSScs + TO LOWER CENTREcDIAMOND
aq y SALTIRE $ ROUNDED CORNERSa; THIRD q + POINTING INDEXas THIRD q + POINTING INDEX
a+ THIRD q + POINTING INDEXaNEGATIVE SQUARED QUESTION raSTICK FIGUREbFIGURE $ ARMS RAISED
cLEANING ;d+c$ DRESSaq UP-POINTING CHEVRON"⟩,
  ⟨0x1fbf0, "aSEGMENTED DIGIT ZEROcONEcTWOc|cFOURcFIVEcSIXcSEVENcEIGHTcNINE"⟩,
  ⟨0xe0001, "aLANGUAGE TAG"⟩,
  ⟨0xe0020, "aTAG SPACEbEXCLAMATION rbQUOTATION rbNUMBER *bDOLLAR *bPERCENT *bAMPERSAND
bAPOSTROPHEb; PARENTHESISb+ PARENTHESISbASTERISKbPLUS *bCOMMAbHYPHEN-MINUSbFULL STOPbSOLIDUS
bDIGIT ZEROcONEcTWOc|cFOURcFIVEcSIXcSEVENcEIGHTcNINEbCOLONbSEMICOLONbLESS-THAN *bEQUALS *
bGREATER-THAN *bQUESTION rbCOMMERCIAL ATbLATIN % ! Azzzzzzzzzzzzzzzzzzzzzzzzzb; SQUARE w
bREVERSE SOLIDUSb+ SQUARE wbx ACCENTbLOW LINEbGRAVE ACCENTbLATIN & ! Azzzzzzzzzzzzzzzzzzzzzzzzz
b; CURLY wb? LINEb+ CURLY wbTILDEaCANCEL TAG"⟩,
  ⟨0xe0100, "aVARIATION SELECTOR-17zzzzzzzzzzzzzzzzzzzzzzzzzzzzzzzzzzzzzzzzzzzzzzzzzzzzzzzzzzzzzz
zzzzzzzzzzzzzzzzzzzzbSELECTOR-100zzzzzzzzzzzzzzzzzzzzzzzzzzzzzzzzzzzzzzzzzzzzzzzzzzzzzzzzzzzzzzzz
zzzzzzzzzzzzzzzzzzzzzzzzzzzzzzzzzzzzzzzzzzzzzzzzzzzzzzzzzzzzzzzzzzzzzzzzzzzzzzzzzzzzzzzzzzzz"⟩]

end CallTree.Text.CharName
