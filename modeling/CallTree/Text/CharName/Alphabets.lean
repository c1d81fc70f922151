import CallTree.Text.CharName.Packed

/-!
# Names of characters: alphabets

The characters below U+1000: the alphabets of Europe, the Near East and South Asia, with the
punctuation, digits and marks that go with them.
-/

namespace CallTree.Text.CharName

/-- The names of these characters. -/
def alphabets : List Run := [
  ⟨0x20, "aSPACEaEXCLAMATION raQUOTATION raNUMBER *aDOLLAR *aPERCENT *aAMPERSANDaAPOSTROPHE
a; PARENTHESISa+ PARENTHESISaASTERISKaPLUS *aCOMMAaHYPHEN-MINUSaFULL STOPaSOLIDUSaDIGIT ZERObONE
bTWOb|bFOURbFIVEbSIXbSEVENbEIGHTbNINEaCOLONaSEMICOLONaLESS-THAN *aEQUALS *aGREATER-THAN *
aQUESTION raCOMMERCIAL ATaLATIN % ! Azzzzzzzzzzzzzzzzzzzzzzzzza; SQUARE waREVERSE SOLIDUS
a+ SQUARE wax ACCENTaLOW LINEaGRAVE ACCENTaLATIN & ! Azzzzzzzzzzzzzzzzzzzzzzzzza; CURLY wa? LINE
a+ CURLY waTILDE"⟩,
  ⟨0xa0, "aNO-BREAK SPACEaINVERTED EXCLAMATION raCENT *aPOUND *aCURRENCY *aYEN *aBROKEN BAR
aSECTION *aDIAERESISaCOPYRIGHT *aFEMININE ORDINAL INDICATORaLEFT-POINTING : ANGLE QUOTATION r
aNOT *aSOFT HYPHENaREGISTERED *aMACRONaDEGREE *aPLUS-MINUS *aSUPERSCRIPT TWOb|aACUTE ACCENT
aMICRO *aPILCROW *as DOTaCEDILLAaSUPERSCRIPT ONEaMASCULINE ORDINAL INDICATOR
aRIGHT-POINTING : ANGLE QUOTATION raVULGAR FRACTION ONE QUARTERdHALFc| QUARTERS
aINVERTED QUESTION raLATIN % ! A $ GRAVEfACUTEfxfTILDEfDIAERESISfRING ,dAEdC $ CEDILLAdE $ GRAVE
fACUTEfxfDIAERESISdI $ GRAVEfACUTEfxfDIAERESISdETHdN $ TILDEdO $ GRAVEfACUTEfxfTILDEfDIAERESIS
aMULTIPLICATION *aLATIN % ! O $ mdU $ GRAVEfACUTEfxfDIAERESISdY $ ACUTEdTHORNb& ! SHARP S
dA $ GRAVEfACUTEfxfTILDEfDIAERESISfRING ,dAEdC $ CEDILLAdE $ GRAVEfACUTEfxfDIAERESISdI $ GRAVE
fACUTEfxfDIAERESISdETHdN $ TILDEdO $ GRAVEfACUTEfxfTILDEfDIAERESISaDIVISION *aLATIN & ! O $ m
dU $ GRAVEfACUTEfxfDIAERESISdY $ ACUTEdTHORNdY $ DIAERESISb% ! A $ MACRONb& ! A $ MACRON
b% ! A $ BREVEb& ! A $ BREVEb% ! A $ OGONEKb& ! A $ OGONEKb% ! C $ ACUTEb& ! C $ ACUTEb% ! C $ x
b& ! C $ xb% ! C $ DOT ,b& ! C $ DOT ,b% ! C $ CARONb& ! C $ CARONb% ! D $ CARONb& ! D $ CARON
b% ! D $ mb& ! D $ mb% ! E $ MACRONb& ! E $ MACRONb% ! E $ BREVEb& ! E $ BREVEb% ! E $ DOT ,
b& ! E $ DOT ,b% ! E $ OGONEKb& ! E $ OGONEKb% ! E $ CARONb& ! E $ CARONb% ! G $ xb& ! G $ x
b% ! G $ BREVEb& ! G $ BREVEb% ! G $ DOT ,b& ! G $ DOT ,b% ! G $ CEDILLAb& ! G $ CEDILLA
b% ! H $ xb& ! H $ xb% ! H $ mb& ! H $ mb% ! I $ TILDEb& ! I $ TILDEb% ! I $ MACRON
b& ! I $ MACRONb% ! I $ BREVEb& ! I $ BREVEb% ! I $ OGONEKb& ! I $ OGONEKb% ! I $ DOT ,
b& ! DOTLESS Ib% LIGATURE IJb& LIGATURE IJb% ! J $ xb& ! J $ xb% ! K $ CEDILLAb& ! K $ CEDILLA
dKRAb% ! L $ ACUTEb& ! L $ ACUTEb% ! L $ CEDILLAb& ! L $ CEDILLAb% ! L $ CARONb& ! L $ CARON
b% ! L $ s DOTb& ! L $ s DOTb% ! L $ mb& ! L $ mb% ! N $ ACUTEb& ! N $ ACUTEb% ! N $ CEDILLA
b& ! N $ CEDILLAb% ! N $ CARONb& ! N $ CARONePRECEDED BY APOSTROPHEb% ! ENGb& ! ENG
b% ! O $ MACRONb& ! O $ MACRONb% ! O $ BREVEb& ! O $ BREVEb% ! O $ : ACUTEb& ! O $ : ACUTE
b% LIGATURE OEb& LIGATURE OEb% ! R $ ACUTEb& ! R $ ACUTEb% ! R $ CEDILLAb& ! R $ CEDILLA
b% ! R $ CARONb& ! R $ CARONb% ! S $ ACUTEb& ! S $ ACUTEb% ! S $ xb& ! S $ xb% ! S $ CEDILLA
b& ! S $ CEDILLAb% ! S $ CARONb& ! S $ CARONb% ! T $ CEDILLAb& ! T $ CEDILLAb% ! T $ CARON
b& ! T $ CARONb% ! T $ mb& ! T $ mb% ! U $ TILDEb& ! U $ TILDEb% ! U $ MACRONb& ! U $ MACRON
b% ! U $ BREVEb& ! U $ BREVEb% ! U $ RING ,b& ! U $ RING ,b% ! U $ : ACUTEb& ! U $ : ACUTE
b% ! U $ OGONEKb& ! U $ OGONEKb% ! W $ xb& ! W $ xb% ! Y $ xb& ! Y $ xb% ! Y $ DIAERESIS
dZ $ ACUTEb& ! Z $ ACUTEb% ! Z $ DOT ,b& ! Z $ DOT ,b% ! Z $ CARONb& ! Z $ CARONdLONG SdB $ m
b% ! B $ HOOKfTOPBARb& ! B $ TOPBARb% ! TONE SIXb& ! TONE SIXb% ! OPEN OdC $ HOOKb& ! C $ HOOK
b% ! AFRICAN DdD $ HOOKfTOPBARb& ! D $ TOPBARdTURNED DELTAb% ! REVERSED EdSCHWAdOPEN EdF $ HOOK
b& ! F $ HOOKb% ! G $ HOOKdGAMMAb& ! HVb% ! IOTAdI $ mdK $ HOOKb& ! K $ HOOKdL $ BARdLAMBDA $ m
b% ! TURNED MdN $ ; HOOKb& ! N $ LONG + LEGb% ! O $ s TILDEfHORNb& ! O $ HORNb% ! OIb& ! OI
b% ! P $ HOOKb& ! P $ HOOKb! YRb% ! TONE TWOb& ! TONE TWOb% ! ESHb! REVERSED ESH LOOP
b& ! T $ PALATAL HOOKb% ! T $ HOOKb& ! T $ HOOKb% ! T $ RETROFLEX HOOKdU $ HORNb& ! U $ HORN
b% ! UPSILONdV $ HOOKdY $ HOOKb& ! Y $ HOOKb% ! Z $ mb& ! Z $ mb% ! EZHdEZH REVERSED
b& ! EZH REVERSEDe$ TAILb! TWO $ mb% ! TONE FIVEb& ! TONE FIVEb! INVERTED GLOTTAL STOP $ mcWYNN
cDENTAL CLICKcLATERAL CLICKcALVEOLAR CLICKcRETROFLEX CLICKb% ! DZ $ CARONdD $ & ! Z $ CARON
b& ! DZ $ CARONb% ! LJdL $ & ! Jb& ! LJb% ! NJdN $ & ! Jb& ! NJb% ! A $ CARONb& ! A $ CARON
b% ! I $ CARONb& ! I $ CARONb% ! O $ CARONb& ! O $ CARONb% ! U $ CARONb& ! U $ CARON
b% ! U $ DIAERESIS > MACRONb& ! U $ DIAERESIS > MACRONb% ! U $ DIAERESIS > ACUTE
b& ! U $ DIAERESIS > ACUTEb% ! U $ DIAERESIS > CARONb& ! U $ DIAERESIS > CARON
b% ! U $ DIAERESIS > GRAVEb& ! U $ DIAERESIS > GRAVEdTURNED Eb% ! A $ DIAERESIS > MACRON
b& ! A $ DIAERESIS > MACRONb% ! A $ DOT , > MACRONb& ! A $ DOT , > MACRONb% ! AE $ MACRON
b& ! AE $ MACRONb% ! G $ mb& ! G $ mb% ! G $ CARONb& ! G $ CARONb% ! K $ CARONb& ! K $ CARON
b% ! O $ OGONEKb& ! O $ OGONEKb% ! O $ OGONEK > MACRONb& ! O $ OGONEK > MACRONb% ! EZH $ CARON
b& ! EZH $ CARONdJ $ CARONb% ! DZdD $ & ! Zb& ! DZb% ! G $ ACUTEb& ! G $ ACUTEb% ! HWAIRdWYNN
dN $ GRAVEb& ! N $ GRAVEb% ! A $ RING , > ACUTEb& ! A $ RING , > ACUTEb% ! AE $ ACUTE
b& ! AE $ ACUTEb% ! O $ m > ACUTEb& ! O $ m > ACUTEb% ! A $ : GRAVEb& ! A $ : GRAVE
b% ! A $ INVERTED BREVEb& ! A $ INVERTED BREVEb% ! E $ : GRAVEb& ! E $ : GRAVE
b% ! E $ INVERTED BREVEb& ! E $ INVERTED BREVEb% ! I $ : GRAVEb& ! I $ : GRAVE
b% ! I $ INVERTED BREVEb& ! I $ INVERTED BREVEb% ! O $ : GRAVEb& ! O $ : GRAVE
b% ! O $ INVERTED BREVEb& ! O $ INVERTED BREVEb% ! R $ : GRAVEb& ! R $ : GRAVE
b% ! R $ INVERTED BREVEb& ! R $ INVERTED BREVEb% ! U $ : GRAVEb& ! U $ : GRAVE
b% ! U $ INVERTED BREVEb& ! U $ INVERTED BREVEb% ! S $ COMMA <b& ! S $ COMMA <b% ! T $ COMMA <
b& ! T $ COMMA <b% ! YOGHb& ! YOGHb% ! H $ CARONb& ! H $ CARONb% ! N $ LONG + LEGb& ! D $ CURL
b% ! OUb& ! OUb% ! Z $ HOOKb& ! Z $ HOOKb% ! A $ DOT ,b& ! A $ DOT ,b% ! E $ CEDILLA
b& ! E $ CEDILLAb% ! O $ DIAERESIS > MACRONb& ! O $ DIAERESIS > MACRONb% ! O $ TILDE > MACRON
b& ! O $ TILDE > MACRONb% ! O $ DOT ,b& ! O $ DOT ,b% ! O $ DOT , > MACRONb& ! O $ DOT , > MACRON
b% ! Y $ MACRONb& ! Y $ MACRONdL $ CURLdN $ CURLdT $ CURLdDOTLESS JdDB DIGRAPHdQP DIGRAPH
b% ! A $ mdC $ mb& ! C $ mb% ! L $ BARdT $ DIAGONAL mb& ! S $ SWASH TAILdZ $ SWASH TAIL
b% ! GLOTTAL STOPb& ! GLOTTAL STOPb% ! B $ mdU BARdTURNED VdE $ mb& ! E $ mb% ! J $ mb& ! J $ m
b% ! & Q $ HOOK TAILb& ! Q $ HOOK TAILb% ! R $ mb& ! R $ mb% ! Y $ mb& ! Y $ mdTURNED AdALPHA
dTURNED ALPHAdB $ HOOKdOPEN OdC $ CURLdD $ TAILfHOOKdREVERSED EdSCHWAdSCHWA $ HOOKdOPEN E
dREVERSED OPEN EfE $ HOOKdCLOSED REVERSED OPEN EdDOTLESS J $ mdG $ HOOKdSCRIPT Gb! & % G
b& ! GAMMAdRAMS HORNdTURNED HdH $ HOOKdHENG $ HOOKdI $ mdIOTAb! & % Ib& ! L $ s TILDEfBELT
fRETROFLEX HOOKdLEZHdTURNED MeM $ LONG LEGdM $ HOOKdN $ ; HOOKfRETROFLEX HOOKb! & % N
b& ! BARRED Ob! & % OEb& ! CLOSED OMEGAdPHIdTURNED ReR $ LONG LEGgHOOKdR $ LONG LEGfTAILfFISHHOOK
dREVERSED R $ FISHHOOKb! & % ReINVERTED Rb& ! S $ HOOKdESHdDOTLESS J $ m > HOOK
dSQUAT REVERSED ESHdESH $ CURLdTURNED TdT $ RETROFLEX HOOKdU BARdUPSILONdV $ HOOKdTURNED VzeY
b! & % Yb& ! Z $ RETROFLEX HOOKfCURLdEZHdEZH $ CURLb! GLOTTAL STOPcPHARYNGEAL VOICED FRICATIVE
cINVERTED GLOTTAL STOPcSTRETCHED CcBILABIAL CLICKc& % Bb& ! CLOSED OPEN Eb! & % G $ HOOKeH
b& ! J $ CROSSED-TAILdTURNED Kb! & % Lb& ! Q $ HOOKb! GLOTTAL STOP $ mcREVERSED GLOTTAL STOP $ m
b& ! DZ DIGRAPHdDEZH DIGRAPHdDZ DIGRAPH $ CURLdTS DIGRAPHdTESH DIGRAPHdTC DIGRAPH $ CURL
dFENG DIGRAPHdLS DIGRAPHdLZ DIGRAPHb! BILABIAL PERCUSSIVEcBIDENTAL PERCUSSIVE
b& ! TURNED H $ FISHHOOKgFISHHOOK > TAILaMODIFIER ! & HdH $ HOOKdJdRdTURNED ReR $ HOOK
d% INVERTED RdWdYcPRIMEc: PRIMEcTURNED COMMAcAPOSTROPHEcREVERSED COMMAc+ HALF RINGc; HALF RING
cGLOTTAL STOPcREVERSED GLOTTAL STOPc; ARROWHEADc+ ARROWHEADcUP ARROWHEADcDOWN ARROWHEADcx ACCENT
aCARONaMODIFIER ! ? LINEcMACRONcACUTE ACCENTcGRAVE ACCENTcLOW ? LINEdMACRONdGRAVE ACCENT
dACUTE ACCENTcTRIANGULAR COLONcHALF TRIANGULAR COLONcCENTRED + HALF RINGd; HALF RINGcUP TACK
cDOWN TACKcPLUS *cMINUS *aBREVEaDOT ,aRING ,aOGONEKa& TILDEa: ACUTE ACCENTaMODIFIER ! RHOTIC HOOK
cCROSS ACCENTc& GAMMAdLdSdXdREVERSED GLOTTAL STOPcEXTRA-HIGH TONE BARcHIGH TONE BARcMID TONE BAR
cLOW TONE BARcEXTRA-LOW TONE BARcYIN DEPARTING TONE rcYANG DEPARTING TONE rcVOICINGcUNASPIRATED
c: APOSTROPHEcLOW DOWN ARROWHEADdUP ARROWHEADd; ARROWHEADd+ ARROWHEADdRINGcs GRAVE ACCENT
d: GRAVE ACCENTeACUTE ACCENTcLOW TILDEcRAISED COLONcBEGIN HIGH TONEcEND HIGH TONEcBEGIN LOW TONE
cEND LOW TONEcSHELFcOPEN SHELFcLOW ; )aCOMBINING GRAVE ACCENTbACUTE ACCENTbx ACCENTbTILDEbMACRON
bOVERLINEbBREVEbDOT ,bDIAERESISbHOOK ,bRING ,b: ACUTE ACCENTbCARONb? LINE ,b: ? LINE ,
cGRAVE ACCENTbCANDRABINDUbINVERTED BREVEbTURNED COMMA ,bCOMMA ,bREVERSED COMMA ,bCOMMA , +
bGRAVE ACCENT <bACUTE ACCENT <b; TACK <b+ TACK <b; ANGLE ,bHORNb; HALF RING <bUP TACK <
bDOWN TACK <bPLUS * <bMINUS * <bPALATALIZED HOOK <bRETROFLEX HOOK <bDOT <bDIAERESIS <bRING <
bCOMMA <bCEDILLAbOGONEKb? LINE <bBRIDGE <bINVERTED : ARCH <bCARON <bx ACCENT <bBREVE <
bINVERTED BREVE <bTILDE <bMACRON <bLOW LINEb: LOW LINEbTILDE OVERLAYbSHORT m OVERLAY
bLONG m OVERLAYbSHORT SOLIDUS OVERLAYbLONG SOLIDUS OVERLAYb+ HALF RING <bINVERTED BRIDGE <
bSQUARE <bSEAGULL <bX ,b? TILDEb: OVERLINEbGRAVE TONE rbACUTE TONE rbGREEK PERISPOMENIcKORONIS
cDIALYTIKA TONOScYPOGEGRAMMENIbBRIDGE ,bEQUALS * <b: ? LINE <b; ANGLE <bNOT TILDE ,bHOMOTHETIC ,
bALMOST EQUAL TO ,b; + ) <bUPWARDS ) <bGRAPHEME JOINERb+ ARROWHEAD ,b; HALF RING ,bFERMATAbX <
b; ARROWHEAD <b+ ARROWHEAD <d> UP ARROWHEAD <cHALF RING ,bDOT , +bASTERISK <b: RING <bZIGZAG ,
b: BREVE <cBREVEcMACRONcMACRON <cTILDEcINVERTED BREVEc/ ) <bLATIN & ! AeEeIeOeUeCzeHeMeReTeVeX
aGREEK % ! HETAb& ! HETAb% ! ARCHAIC SAMPIb& ! ARCHAIC SAMPIbNUMERAL *bLOWER NUMERAL *
b% ! PAMPHYLIAN DIGAMMAb& ! PAMPHYLIAN DIGAMMA"⟩,
  ⟨0x37a, "aGREEK YPOGEGRAMMENIb& REVERSED LUNATE SIGMA ncDOTTED LUNATE SIGMA n
cREVERSED DOTTED LUNATE SIGMA nbQUESTION rb% ! YOT"⟩,
  ⟨0x384, "aGREEK TONOSbDIALYTIKA TONOSb% ! ALPHA $ TONOSbANO TELEIAb% ! EPSILON $ TONOS
dETA $ TONOSdIOTA $ TONOS"⟩,
  ⟨0x38c, "aGREEK % ! OMICRON $ TONOS"⟩,
  ⟨0x38e, "aGREEK % ! UPSILON $ TONOSdOMEGA $ TONOSb& ! IOTA $ DIALYTIKA > TONOSb% ! ALPHAdBETA
dGAMMAdDELTAdEPSILONdZETAdETAdTHETAdIOTAdKAPPAdLAMDAdMUdNUdXIdOMICRONdPIdRHO"⟩,
  ⟨0x3a3, "aGREEK % ! SIGMAdTAUdUPSILONdPHIdCHIdPSIdOMEGAdIOTA $ DIALYTIKAdUPSILON $ DIALYTIKA
b& ! ALPHA $ TONOSdEPSILON $ TONOSdETA $ TONOSdIOTA $ TONOSdUPSILON $ DIALYTIKA > TONOSdALPHA
dBETAdGAMMAdDELTAdEPSILONdZETAdETAdTHETAdIOTAdKAPPAdLAMDAdMUdNUdXIdOMICRONdPIdRHOd= SIGMAdSIGMA
dTAUdUPSILONdPHIdCHIdPSIdOMEGAdIOTA $ DIALYTIKAdUPSILON $ DIALYTIKAdOMICRON $ TONOS
dUPSILON $ TONOSdOMEGA $ TONOSb% KAI nbBETA nbTHETA nbUPSILON $ HOOK ndACUTE > HOOK n
dDIAERESIS > HOOK nbPHI nbPI nbKAI nb! ARCHAIC KOPPAb& ! ARCHAIC KOPPAb! STIGMAb& ! STIGMA
b! DIGAMMAb& ! DIGAMMAb! KOPPAb& ! KOPPAb! SAMPIb& ! SAMPIaCOPTIC % ! SHEIb& ! SHEIb% ! FEI
b& ! FEIb% ! KHEIb& ! KHEIb% ! HORIb& ! HORIb% ! GANGIAb& ! GANGIAb% ! SHIMAb& ! SHIMAb% ! DEI
b& ! DEIaGREEK KAPPA nbRHO nbLUNATE SIGMA nb! YOTb% THETA nbLUNATE EPSILON n
bREVERSED LUNATE EPSILON nb% ! SHOb& ! SHOb% LUNATE SIGMA nc! SANb& ! SANbRHO $ m n
b% REVERSED LUNATE SIGMA ncDOTTED LUNATE SIGMA ncREVERSED DOTTED LUNATE SIGMA n
aCYRILLIC % ! IE $ GRAVEdIOdDJEdGJEdUKRAINIAN IEdDZEdBYELORUSSIAN-UKRAINIAN IdYIdJEdLJEdNJEdTSHE
dKJEdI $ GRAVEdSHORT UdDZHEdAdBEdVEdGHEdDEdIEdZHEdZEdIdSHORT IdKAdELzzdOdPEdERzdTEdUdEFdHAdTSE
dCHEdSHAdSHCHAdHARD *dYERUdSOFT *dEdYUdYAb& ! AdBEdVEdGHEdDEdIEdZHEdZEdIdSHORT IdKAdELzzdOdPEdERz
dTEdUdEFdHAdTSEdCHEdSHAdSHCHAdHARD *dYERUdSOFT *dEdYUdYAdIE $ GRAVEdIOdDJEdGJEdUKRAINIAN IEdDZE
dBYELORUSSIAN-UKRAINIAN IdYIdJEdLJEdNJEdTSHEdKJEdI $ GRAVEdSHORT UdDZHEb% ! OMEGAb& ! OMEGA
b% ! YATb& ! YATb% ! IOTIFIED Eb& ! IOTIFIED Eb% ! LITTLE YUSb& ! LITTLE YUS
b% ! IOTIFIED LITTLE YUSb& ! IOTIFIED LITTLE YUSb% ! BIG YUSb& ! BIG YUSb% ! IOTIFIED BIG YUS
b& ! IOTIFIED BIG YUSb% ! KSIb& ! KSIb% ! PSIb& ! PSIb% ! FITAb& ! FITAb% ! IZHITSAb& ! IZHITSA
b% ! IZHITSA $ : GRAVE ACCENTb& ! IZHITSA $ : GRAVE ACCENTb% ! UKb& ! UKb% ! ROUND OMEGA
b& ! ROUND OMEGAb% ! OMEGA $ TITLOb& ! OMEGA $ TITLOb% ! OTb& ! OTb% ! KOPPAb& ! KOPPA
bTHOUSANDS *aCOMBINING CYRILLIC TITLOcPALATALIZATIONcDASIA PNEUMATAcPSILI PNEUMATAcPOKRYTIE
ct THOUSANDS *cMILLIONS *aCYRILLIC % ! SHORT I $ TAILb& ! SHORT I $ TAILb% ! SEMISOFT *
b& ! SEMISOFT *b% ! ER $ TICKb& ! ER $ TICKb% ! GHE $ UPTURNb& ! GHE $ UPTURNb% ! GHE $ m
b& ! GHE $ mb% ! GHE $ s HOOKb& ! GHE $ s HOOKb% ! ZHE $ DESCENDERb& ! ZHE $ DESCENDER
b% ! ZE $ DESCENDERb& ! ZE $ DESCENDERb% ! KA $ DESCENDERb& ! KA $ DESCENDERb% ! KA $ ? m
b& ! KA $ ? mb% ! KA $ mb& ! KA $ mb% ! BASHKIR KAb& ! BASHKIR KAb% ! EN $ DESCENDER
b& ! EN $ DESCENDERb% LIGATURE EN GHEb& LIGATURE EN GHEb% ! PE $ s HOOKb& ! PE $ s HOOK
b% ! ABKHASIAN HAb& ! ABKHASIAN HAb% ! ES $ DESCENDERb& ! ES $ DESCENDERb% ! TE $ DESCENDER
b& ! TE $ DESCENDERb% ! STRAIGHT Ub& ! STRAIGHT Ub% ! STRAIGHT U $ mb& ! STRAIGHT U $ m
b% ! HA $ DESCENDERb& ! HA $ DESCENDERb% LIGATURE TE TSEb& LIGATURE TE TSEb% ! CHE $ DESCENDER
b& ! CHE $ DESCENDERb% ! CHE $ ? mb& ! CHE $ ? mb% ! SHHAb& ! SHHAb% ! ABKHASIAN CHE
b& ! ABKHASIAN CHEb% ! ABKHASIAN CHE $ DESCENDERb& ! ABKHASIAN CHE $ DESCENDERb! PALOCHKA
b% ! ZHE $ BREVEb& ! ZHE $ BREVEb% ! KA $ HOOKb& ! KA $ HOOKb% ! EL $ TAILb& ! EL $ TAIL
b% ! EN $ HOOKb& ! EN $ HOOKb% ! EN $ TAILb& ! EN $ TAILb% ! KHAKASSIAN CHEb& ! KHAKASSIAN CHE
b% ! EM $ TAILb& ! EM $ TAILdPALOCHKAb% ! A $ BREVEb& ! A $ BREVEb% ! A $ DIAERESIS
b& ! A $ DIAERESISb% LIGATURE A IEb& LIGATURE A IEb% ! IE $ BREVEb& ! IE $ BREVEb% ! SCHWA
b& ! SCHWAb% ! SCHWA $ DIAERESISb& ! SCHWA $ DIAERESISb% ! ZHE $ DIAERESISb& ! ZHE $ DIAERESIS
b% ! ZE $ DIAERESISb& ! ZE $ DIAERESISb% ! ABKHASIAN DZEb& ! ABKHASIAN DZEb% ! I $ MACRON
b& ! I $ MACRONb% ! I $ DIAERESISb& ! I $ DIAERESISb% ! O $ DIAERESISb& ! O $ DIAERESIS
b% ! BARRED Ob& ! BARRED Ob% ! BARRED O $ DIAERESISb& ! BARRED O $ DIAERESISb% ! E $ DIAERESIS
b& ! E $ DIAERESISb% ! U $ MACRONb& ! U $ MACRONb% ! U $ DIAERESISb& ! U $ DIAERESIS
b% ! U $ : ACUTEb& ! U $ : ACUTEb% ! CHE $ DIAERESISb& ! CHE $ DIAERESISb% ! GHE $ DESCENDER
b& ! GHE $ DESCENDERb% ! YERU $ DIAERESISb& ! YERU $ DIAERESISb% ! GHE $ m > HOOK
b& ! GHE $ m > HOOKb% ! HA $ HOOKb& ! HA $ HOOKb% ! HA $ mb& ! HA $ mb% ! KOMI DEb& ! KOMI DE
b% ! KOMI DJEb& ! KOMI DJEb% ! KOMI ZJEb& ! KOMI ZJEb% ! KOMI DZJEb& ! KOMI DZJEb% ! KOMI LJE
b& ! KOMI LJEb% ! KOMI NJEb& ! KOMI NJEb% ! KOMI SJEb& ! KOMI SJEb% ! KOMI TJEb& ! KOMI TJE
b% ! REVERSED ZEb& ! REVERSED ZEb% ! EL $ HOOKb& ! EL $ HOOKb% ! LHAb& ! LHAb% ! RHAb& ! RHA
b% ! YAEb& ! YAEb% ! QAb& ! QAb% ! WEb& ! WEb% ! ALEUT KAb& ! ALEUT KAb% ! EL $ s HOOK
b& ! EL $ s HOOKb% ! EN $ s HOOKb& ! EN $ s HOOKb% ! PE $ DESCENDERb& ! PE $ DESCENDER
b% ! SHHA $ DESCENDERb& ! SHHA $ DESCENDERb% ! EN $ ; HOOKb& ! EN $ ; HOOKb% ! DZZHEb& ! DZZHE
b% ! DCHEb& ! DCHEb% ! EL $ DESCENDERb& ! EL $ DESCENDER"⟩,
  ⟨0x531, "aARMENIAN % ! AYBdBENdGIMdDAdECHdZAdEHdETdTOdZHEdINIdLIWNdXEHdCAdKENdHOdJAdGHADdCHEH
dMENdYIdNOWdSHAdVOdCHAdPEHdJHEHdRAdSEHdVEWdTIWNdREHdCOdYIWNdPIWRdKEHdOHdFEH"⟩,
  ⟨0x559, "aARMENIAN MODIFIER ! ; HALF RINGbAPOSTROPHEbEMPHASIS rbEXCLAMATION rbCOMMAbQUESTION r
bABBREVIATION rb& ! TURNED AYBdAYBdBENdGIMdDAdECHdZAdEHdETdTOdZHEdINIdLIWNdXEHdCAdKENdHOdJAdGHAD
dCHEHdMENdYIdNOWdSHAdVOdCHAdPEHdJHEHdRAdSEHdVEWdTIWNdREHdCOdYIWNdPIWRdKEHdOHdFEH
cLIGATURE ECH YIWNc! YI $ mbFULL STOPbHYPHEN"⟩,
  ⟨0x58d, "aRIGHT-FACING ARMENIAN ETERNITY *aLEFT-FACING ARMENIAN ETERNITY *aARMENIAN DRAM *"⟩,
  ⟨0x591, "aHEBREW ACCENT ETNAHTAcSEGOLcSHALSHELETcZAQEF QATANdGADOLcTIPEHAcREVIAcZARQAcPASHTA
cYETIVcTEVIRcGERESHcGERESH MUQDAMcGERSHAYIMcQARNEY PARAcTELISHA GEDOLAcPAZERcATNAH HAFUKHcMUNAH
cMAHAPAKHcMERKHAcMERKHA KEFULAcDARGAcQADMAcTELISHA QETANAcYERAH BEN YOMOcOLEcILUYcDEHIcZINOR
br MASORA CIRCLEbPOINT SHEVAcHATAF SEGOLdPATAHdQAMATScHIRIQcTSEREcSEGOLcPATAHcQAMATScHOLAM
cHOLAM HASER FOR VAVcQUBUTScDAGESH OR MAPIQcMETEGbPUNCTUATION MAQAFbPOINT RAFEbPUNCTUATION PASEQ
bPOINT SHIN DOTcSIN DOTbPUNCTUATION SOF PASUQbr UPPER DOTcLOWER DOTbPUNCTUATION NUN HAFUKHA
bPOINT QAMATS QATAN"⟩,
  ⟨0x5d0, "aHEBREW ! ALEFcBETcGIMELcDALETcHEcVAVcZAYINcHETcTETcYODc= KAFcKAFcLAMEDc= MEMcMEM
c= NUNcNUNcSAMEKHcAYINc= PEcPEc= TSADIcTSADIcQOFcRESHcSHINcTAV"⟩,
  ⟨0x5ef, "aHEBREW YOD TRIANGLEbLIGATURE YIDDISH : VAVdVAV YODd: YODbPUNCTUATION GERESHcGERSHAYIM"⟩,
  ⟨0x600, "aARABIC NUMBER *b* SANAHbFOOTNOTE MARKERb* SAFHAcSAMVATbNUMBER r ,
aARABIC-INDIC CUBE ROOTbFOURTH ROOTaARABIC RAYaARABIC-INDIC PER MILLE *cTEN v *aAFGHANI *
aARABIC COMMAbDATE SEPARATORbPOETIC VERSE *b* MISRAcSALLALLAHOU ALAYHE WASSALLAMcALAYHE ASSALLAM
cRAHMATULLAH ALAYHEcRADI ALLAHOU ANHUcTAKHALLUSb& HIGH TAHdLIGATURE ALEF $ LAM $ YEHdZAINcFATHA
cDAMMAcKASRAbSEMICOLONb! rbEND OF TEXT rbTRIPLE DOT PUNCTUATION rbQUESTION rb! KASHMIRI YEHcHAMZA
cALEF $ MADDA ,eHAMZA ,cWAW $ HAMZA ,cALEF $ HAMZA <cYEH $ HAMZA ,cALEFcBEHcTEH MARBUTAcTEHcTHEH
cJEEMcHAHcKHAHcDALcTHALcREHcZAINcSEENcSHEENcSADcDADcTAHcZAHcAINcGHAINcKEHEH $ TWO DOTS ,e| DOTS <
cFARSI YEH $ INVERTED VfTWO DOTS ,f| DOTS ,bTATWEELb! FEHcQAFcKAFcLAMcMEEMcNOONcHEHcWAW
cALEF MAKSURAcYEHbFATHATANbDAMMATANbKASRATANbFATHAbDAMMAbKASRAbSHADDAbSUKUNbMADDAH ,bHAMZA ,c<
bSUBSCRIPT ALEFbINVERTED DAMMAbr NOON GHUNNAbZWARAKAYbVOWEL * & V ,dINVERTED & V ,dDOT <
bREVERSED DAMMAbFATHA $ TWO DOTSbWAVY HAMZA <aARABIC-INDIC DIGIT ZEROcONEcTWOc|cFOURcFIVEcSIX
cSEVENcEIGHTcNINEaARABIC PERCENT *bDECIMAL SEPARATORbTHOUSANDS SEPARATORbFIVE POINTED STAR
b! DOTLESS BEHdQAFcSUPERSCRIPT ALEFcALEF WASLAd$ WAVY HAMZA ,g<cHIGH HAMZAdHAMZA ALEFeWAW
cU $ HAMZA ,cHIGH HAMZA YEHcTTEHcTTEHEHcBEEHcTEH $ RINGe| DOTS , ucPEHcTEHEHcBEHEHcHAH $ HAMZA ,
eTWO DOTS ? ,cNYEHcDYEHcHAH $ | DOTS ,cTCHEHcTCHEHEHcDDALcDAL $ RINGeDOT <f< > & TAHcDAHALcDDAHAL
cDULcDAL $ | DOTS , ueFOUR DOTS ,cRREHcREH $ & VeRINGeDOT <e& V <eDOT < > DOT ,eTWO DOTS ,cJEH
cREH $ FOUR DOTS ,cSEEN $ DOT < > DOT ,e| DOTS <g< > | DOTS ,cSAD $ TWO DOTS <e| DOTS ,
cTAH $ | DOTS ,cAIN $ | DOTS ,cDOTLESS FEHcFEH $ DOT MOVED <f<cVEHcFEH $ | DOTS <cPEHEH
cQAF $ DOT ,e| DOTS ,cKEHEHcSWASH KAFcKAF $ RINGeDOT ,cNGcKAF $ | DOTS <cGAFcGAF $ RINGcNGOEH
cGAF $ TWO DOTS <cGUEHcGAF $ | DOTS ,cLAM $ & VeDOT ,e| DOTS ,g<cNOON $ DOT <dGHUNNAcRNOON
cNOON $ RINGe| DOTS ,cHEH DOACHASHMEEcTCHEH $ DOT ,cHEH $ YEH ,dGOALdGOAL $ HAMZA ,
cTEH MARBUTA GOALcWAW $ RINGcKIRGHIZ OEcOEcUcYUcKIRGHIZ YUcWAW $ TWO DOTS ,cVEcFARSI YEH
cYEH $ TAILe& VcWAW $ DOT ,cEcYEH $ | DOTS <dBARREEdBARREE $ HAMZA ,bFULL STOPb! AE
b& HIGH LIGATURE SAD $ LAM $ ALEF MAKSURAeQAF $ LAM $ ALEF MAKSURAdMEEM _ (dLAM ALEFdJEEMd| DOTS
dSEENbEND OF AYAHbSTART OF RUB EL HIZBb& HIGH ROUNDED ZEROdUPRIGHT RECTANGULAR ZERO
dDOTLESS HEAD OF KHAHdMEEM . (cLOW SEENcHIGH MADDAcWAWcYEHcHIGH YEHdNOONbPLACE OF SAJDAH
bEMPTY CENTRE LOW STOPdHIGH STOPbROUNDED HIGH STOP $ FILLED CENTREb& LOW MEEMb! DAL $ INVERTED V
cREH $ INVERTED VaEXTENDED ARABIC-INDIC DIGIT ZEROdONEdTWOd|dFOURdFIVEdSIXdSEVENdEIGHTdNINE
aARABIC ! SHEEN $ DOT <cDAD $ DOT <cGHAIN $ DOT <b* SINDHI AMPERSANDdPOSTPOSITION MEN
b! HEH $ INVERTED VaSYRIAC END OF PARAGRAPHbSUPRALINEAR FULL STOPbSUBLINEAR FULL STOP
bSUPRALINEAR COLONbSUBLINEAR COLONbp COLONbCOLON SKEWED ;d+bSUPRALINEAR COLON SKEWED ;
bSUBLINEAR COLON SKEWED +bCONTRACTIONbHARKLEAN OBELUScMETOBELUScASTERISCUS"⟩,
  ⟨0x70f, "aSYRIAC ABBREVIATION rb! ALAPHcSUPERSCRIPT ALAPHcBETHcGAMALcGAMAL GARSHUNIcDALATH
cDOTLESS DALATH RISHcHEcWAWcZAINcHETHcTETHcTETH GARSHUNIcYUDHcYUDH HEcKAPHcLAMADHcMIMcNUNcSEMKATH
c= SEMKATHcEcPEcREVERSED PEcSADHEcQAPHcRISHcSHINcTAWcPERSIAN BHETHdGHAMALdDHALATHbPTHAHA ,c<
cDOTTEDbZQAPHA ,c<cDOTTEDbRBASA ,c<bDOTTED ZLAMA pdANGULARbHBASA ,c<bHBASA-ESASA DOTTEDbESASA ,c<
bRWAHAbFEMININE DOTbQUSHSHAYAbRUKKAKHAbTWO ? DOTS ,e<b| DOTS ,d<bOBLIQUE LINE ,d<bMUSICbBARREKH"⟩,
  ⟨0x74d, "aSYRIAC ! SOGDIAN ZHAINdKHAPHdFEaARABIC ! BEH $ | DOTS HORIZONTALLY <eDOT < > | DOTS ,
e| DOTS POINTING UPWARDS <i< > TWO DOTS ,eTWO DOTS < > DOT ,eINVERTED & V <e& VcHAH $ TWO DOTS ,
e| DOTS POINTING UPWARDS <cDAL $ TWO DOTS VERTICALLY < > & TAHeINVERTED & V <cREH $ m
cSEEN $ FOUR DOTS ,cAIN $ TWO DOTS ,e| DOTS POINTING u ,eTWO DOTS VERTICALLY ,cFEH $ TWO DOTS <
e| DOTS POINTING UPWARDS <cKEHEH $ DOT ,e| DOTS ,gPOINTING UPWARDS <cMEEM $ DOT ,f<
cNOON $ TWO DOTS <e& TAHfVcLAM $ BARcREH $ TWO DOTS VERTICALLY ,eHAMZA ,
cSEEN $ TWO DOTS VERTICALLY ,cHAH $ & ARABIC ! TAH <i> TWO DOTScSEEN $ & ARABIC ! TAH > TWO DOTS
cREH $ & ARABIC ! TAH > TWO DOTScHAH $ & ARABIC ! TAH ,cALEF $ EXTENDED ARABIC-INDIC DIGIT TWO ,
h| ,cFARSI YEH $ EXTENDED ARABIC-INDIC DIGIT TWO ,i| ,iFOUR <
cWAW $ EXTENDED ARABIC-INDIC DIGIT TWO ,h| ,cYEH BARREE $ EXTENDED ARABIC-INDIC DIGIT TWO ,i| ,
cHAH $ EXTENDED ARABIC-INDIC DIGIT FOUR <cSEEN $ EXTENDED ARABIC-INDIC DIGIT FOUR ,eINVERTED V
cKAF $ TWO DOTS ,aTHAANA ! HAAcSHAVIYANIcNOONUcRAAcBAAcLHAVIYANIcKAAFUcALIFUcVAAVUcMEEMUcFAAFU
cDHAALUcTHAAcLAAMUcGAAFUcGNAVIYANIcSEENUcDAVIYANIcZAVIYANIcTAVIYANIcYAAcPAVIYANIcJAVIYANI
cCHAVIYANIcTTAAcHHAAcKHAAcTHAALUcZAAcSHEENUcSAADHUcDAADHUcTOcZOcAINUcGHAINUcQAAFUcWAAVUbABAFILI
bAABAAFILIbIBIFILIbEEBEEFILIbUBUFILIbOOBOOFILIbEBEFILIbEYBEYFILIbOBOFILIbOABOAFILIbSUKUNb! NAA"⟩,
  ⟨0x7c0, "aNKO DIGIT ZEROcONEcTWOc|cFOURcFIVEcSIXcSEVENcEIGHTcNINEb! AcEEcIcEcUcOOcOcDAGBASINNA
cNcBAcPAcTAcJAcCHAcDAcRAcRRAcSAcGBAcFAcKAcLAcNA WOLOSOcMAcNYAcNAcHAcWAcYAcNYA WOLOSOcJONA JAdCHA
dRAbCOMBINING SHORT HIGH TONEdLOW TONEdRISING TONEcLONG DESCENDING TONEdHIGH TONEdLOW TONE
dRISING TONEcNASALIZATION rc: DOT ,bHIGH TONE APOSTROPHEbLOW TONE APOSTROPHEbn OO DENNEN
cGBAKURUNENbCOMMAbEXCLAMATION rbLAJANYALAN"⟩,
  ⟨0x7fd, "aNKO DANTAYALANbDOROME *bTAMAN *aSAMARITAN ! ALAFcBITcGAMANcDALATcIYcBAAcZENcITcTIT
cYUTcKAAFcLABATcMIMcNUNcSINGAATcINcFIcTSAADIYcQUFcRISHcSHANcTAAFbr INcIN-ALAFcOCCLUSIONcDAGESH
bMODIFIER ! EPENTHETIC YUTbr EPENTHETIC YUTbVOWEL * LONG EdEdOVERLONG AAdLONG AAdAAdOVERLONG A
dLONG AdAbMODIFIER ! SHORT AbVOWEL * SHORT AdLONG UdUbMODIFIER ! IbVOWEL * LONG IdIdOdSUKUN
br NEQUDAA"⟩,
  ⟨0x830, "aSAMARITAN PUNCTUATION NEQUDAAcAFSAAQcANGEDcBAUcATMAAUcSHIYYAALAAbABBREVIATION r
bPUNCTUATION MELODIC QITSAcZIQAAcQITSAcZAEFcTURUcARKAANUcSOF MASHFAATcANNAAU"⟩,
  ⟨0x840, "aMANDAIC ! HALQAcABcAGcADcAHcUSHENNAcAZcITcATTcAKSAcAKzzzcAScINcAPcASZcAQzcASHcAT
cDUSHENNAcKADcAINbAFFRICATION rbVOCALIZATION rbGEMINATION r"⟩,
  ⟨0x85e, "aMANDAIC PUNCTUATION"⟩,
  ⟨0x860, "aSYRIAC ! MALAYALAM NGAdJAdNYAdTTAdNNAdNNNAdBHAdRAdLLAdLLLAdSSA"⟩,
  ⟨0x870, "aARABIC ! ALEF $ ATTACHED FATHAfTOP + FATHAe+ s me; s meATTACHED KASRAfBOTTOM + KASRA
fROUND DOT ,f+ ROUND DOTf; ROUND DOTfROUND DOT <eDOT ,eATTACHED TOP + FATHA > DOT ,e+ s m > DOT ,
eATTACHED BOTTOM + KASRA > DOT ,fTOP + FATHA > ; RINGe+ s m > ; RING
eATTACHED BOTTOM + KASRA > ; RINGf+ HAMZAf; HAMZAbTATWEEL $ OVERSTRUCK HAMZAeWAWdTWO DOTS <
b! THIN YEHbBASELINE ROUND DOTbRAISED ROUND DOTb! NOON $ INVERTED & VcHAH $ INVERTED & V <
cTAH $ DOT <e| DOTS <cKEHEH $ TWO DOTS VERTICALLY <b? TAIL"⟩,
  ⟨0x890, "aARABIC POUND r ,bPIASTRE r ,"⟩,
  ⟨0x898, "aARABIC & HIGH WORD AL-JUZcLOW WORD ISHMAAMeIMAALAeTASHEELbMADDA WAAJIB
bSUPERSCRIPT ALEF MOKHASSASbDOUBLED MADDAbHALF MADDA OVER MADDAb! BEH $ & V <eHAMZA ,
cJEEM $ TWO DOTS ,cTAH $ TWO DOTS ,cFEH $ DOT < > | DOTS ,cQAF $ DOT <cLAM $ : BAR
cMEEM $ | DOTS ,cYEH $ TWO DOTS < > HAMZA ,iDOT ,cREH $ LOOPcWAW $ DOT WITHINcROHINGYA YEH
cLOW ALEFcDAL $ | DOTS <cSAD $ | DOTS <cGAF $ INVERTED mcSTRAIGHT WAWcZAIN $ INVERTED V ,
cAIN $ | DOTS <cKAF $ DOT <cQAF $ DOT < > NO DOTS ,cBEH $ & MEEM ,cPEH $ & MEEM ,cTEH $ & TEH ,
cREH $ & NOON ,cYEH $ TWO DOTS < > & NOON ,cAFRICAN FEHdQAFdNOONcPEH $ & VcTEH $ & VcTTEH $ & V
cTCHEH $ & VcKEHEH $ & VcGHAIN $ | DOTS ,cAFRICAN QAF $ | DOTS ,cJEEM $ | DOTS ,g<
cLAM $ & ARABIC ! TAH ,cGRAFb& FARSI YEHcHIGH FARSI YEHdYEH BARREE $ TWO DOTS <dWORD SAHdZAH
bLARGE ROUND DOT ,e<bSUKUN <bLARGE CIRCLE <cROUND DOT INSIDE CIRCLE <b& LOW WAWcHIGH WORD AR-RUB
dSADdAINdQAFdNOON $ KASRAcLOW NOON $ KASRAcHIGH WORD ATH-THALATHAeAS-SAJDAeAN-NISFeSAKTAeQIF
eWAQFAdFOOTNOTE MARKERd* SAFHAbDISPUTED END OF AYAHbTURNED DAMMA <bCURLY FATHAcDAMMAcKASRA
cFATHATANcDAMMATANcKASRATANbTONE ONE DOT ,cTWO DOTS ,cLOOP ,cONE DOT <cTWO DOTS <cLOOP <
bOPEN FATHATANcDAMMATANcKASRATANb& HIGH WAWbFATHA $ RINGdDOT ,bKASRA $ DOT <b; ARROWHEAD ,
b+ ARROWHEAD ,b; ARROWHEAD <b+ ARROWHEAD <b: + ARROWHEAD ,e, $ DOTb+ ARROWHEAD , $ DOT
bDAMMA $ DOTbr SIDEWAYS NOON GHUNNAaDEVANAGARI * INVERTED CANDRABINDUcCANDRABINDUcANUSVARA
cVISARGAb! SHORT AcAcAAcIcIIcUcUUcVOCALIC RdLcCANDRA EcSHORT EcEcAIcCANDRA OcSHORT OcOcAUcKAcKHA
cGAcGHAcNGAcCAcCHAcJAcJHAcNYAcTTAcTTHAcDDAcDDHAcNNAcTAcTHAcDAcDHAcNAcNNNAcPAcPHAcBAcBHAcMAcYAcRA
cRRAcLAcLLAcLLLAcVAcSHAcSSAcSAcHAbVOWEL * OEdOOEb* NUKTAcAVAGRAHAbVOWEL * AAdIdIIdUdUUdVOCALIC R
eRRdCANDRA EdSHORT EdEdAIdCANDRA OdSHORT OdOdAUb* VIRAMAbVOWEL * PRISHTHAMATRA EdAWbOM
bSTRESS * UDATTAdANUDATTAbGRAVE ACCENTbACUTE ACCENTbVOWEL * CANDRA LONG EdUEdUUEb! QAcKHHAcGHHA
cZAcDDDHAcRHAcFAcYYAcVOCALIC RRdLLbVOWEL * VOCALIC LeLLbDANDAb: DANDAbDIGIT ZEROcONEcTWOc|cFOUR
cFIVEcSIXcSEVENcEIGHTcNINEbABBREVIATION *b* HIGH SPACING DOTb! CANDRA AcOEcOOEcAWcUEcUUE
cMARWARI DDAcZHAcy YAcGGAcJJAcGLOTTAL STOPcDDDAcBBAaBENGALI ANJIb* CANDRABINDUcANUSVARAcVISARGA"⟩,
  ⟨0x985, "aBENGALI ! AcAAcIcIIcUcUUcVOCALIC RdL"⟩,
  ⟨0x98f, "aBENGALI ! EcAI"⟩,
  ⟨0x993, "aBENGALI ! OcAUcKAcKHAcGAcGHAcNGAcCAcCHAcJAcJHAcNYAcTTAcTTHAcDDAcDDHAcNNAcTAcTHAcDA
cDHAcNA"⟩,
  ⟨0x9aa, "aBENGALI ! PAcPHAcBAcBHAcMAcYAcRA"⟩,
  ⟨0x9b2, "aBENGALI ! LA"⟩,
  ⟨0x9b6, "aBENGALI ! SHAcSSAcSAcHA"⟩,
  ⟨0x9bc, "aBENGALI * NUKTAcAVAGRAHAbVOWEL * AAdIdIIdUdUUdVOCALIC ReRR"⟩,
  ⟨0x9c7, "aBENGALI VOWEL * EdAI"⟩,
  ⟨0x9cb, "aBENGALI VOWEL * OdAUb* VIRAMAb! KHANDA TA"⟩,
  ⟨0x9d7, "aBENGALI AU LENGTH r"⟩,
  ⟨0x9dc, "aBENGALI ! RRAcRHA"⟩,
  ⟨0x9df, "aBENGALI ! YYAcVOCALIC RRdLLbVOWEL * VOCALIC LeLL"⟩,
  ⟨0x9e6, "aBENGALI DIGIT ZEROcONEcTWOc|cFOURcFIVEcSIXcSEVENcEIGHTcNINEb! RA $ s DIAGONAL
eLOWER DIAGONALbRUPEE rc*bCURRENCY NUMERATOR ONEdTWOd|dFOURdONE LESS THAN THE DENOMINATOR
cDENOMINATOR SIXTEENbISSHARbGANDA rb! VEDIC ANUSVARAbABBREVIATION *bSANDHI r"⟩,
  ⟨0xa01, "aGURMUKHI * ADAK BINDIcBINDIcVISARGA"⟩,
  ⟨0xa05, "aGURMUKHI ! AcAAcIcIIcUcUU"⟩,
  ⟨0xa0f, "aGURMUKHI ! EEcAI"⟩,
  ⟨0xa13, "aGURMUKHI ! OOcAUcKAcKHAcGAcGHAcNGAcCAcCHAcJAcJHAcNYAcTTAcTTHAcDDAcDDHAcNNAcTAcTHAcDA
cDHAcNA"⟩,
  ⟨0xa2a, "aGURMUKHI ! PAcPHAcBAcBHAcMAcYAcRA"⟩,
  ⟨0xa32, "aGURMUKHI ! LAcLLA"⟩,
  ⟨0xa35, "aGURMUKHI ! VAcSHA"⟩,
  ⟨0xa38, "aGURMUKHI ! SAcHA"⟩,
  ⟨0xa3c, "aGURMUKHI * NUKTA"⟩,
  ⟨0xa3e, "aGURMUKHI VOWEL * AAdIdIIdUdUU"⟩,
  ⟨0xa47, "aGURMUKHI VOWEL * EEdAI"⟩,
  ⟨0xa4b, "aGURMUKHI VOWEL * OOdAUb* VIRAMA"⟩,
  ⟨0xa51, "aGURMUKHI * UDAAT"⟩,
  ⟨0xa59, "aGURMUKHI ! KHHAcGHHAcZAcRRA"⟩,
  ⟨0xa5e, "aGURMUKHI ! FA"⟩,
  ⟨0xa66, "aGURMUKHI DIGIT ZEROcONEcTWOc|cFOURcFIVEcSIXcSEVENcEIGHTcNINEbTIPPIbADDAKbIRIbURA
bEK ONKARb* YAKASHbABBREVIATION *"⟩,
  ⟨0xa81, "aGUJARATI * CANDRABINDUcANUSVARAcVISARGA"⟩,
  ⟨0xa85, "aGUJARATI ! AcAAcIcIIcUcUUcVOCALIC RdLbVOWEL CANDRA E"⟩,
  ⟨0xa8f, "aGUJARATI ! EcAIbVOWEL CANDRA O"⟩,
  ⟨0xa93, "aGUJARATI ! OcAUcKAcKHAcGAcGHAcNGAcCAcCHAcJAcJHAcNYAcTTAcTTHAcDDAcDDHAcNNAcTAcTHAcDA
cDHAcNA"⟩,
  ⟨0xaaa, "aGUJARATI ! PAcPHAcBAcBHAcMAcYAcRA"⟩,
  ⟨0xab2, "aGUJARATI ! LAcLLA"⟩,
  ⟨0xab5, "aGUJARATI ! VAcSHAcSSAcSAcHA"⟩,
  ⟨0xabc, "aGUJARATI * NUKTAcAVAGRAHAbVOWEL * AAdIdIIdUdUUdVOCALIC ReRRdCANDRA E"⟩,
  ⟨0xac7, "aGUJARATI VOWEL * EdAIdCANDRA O"⟩,
  ⟨0xacb, "aGUJARATI VOWEL * OdAUb* VIRAMA"⟩,
  ⟨0xad0, "aGUJARATI OM"⟩,
  ⟨0xae0, "aGUJARATI ! VOCALIC RRdLLbVOWEL * VOCALIC LeLL"⟩,
  ⟨0xae6, "aGUJARATI DIGIT ZEROcONEcTWOc|cFOURcFIVEcSIXcSEVENcEIGHTcNINEbABBREVIATION *bRUPEE *"⟩,
  ⟨0xaf9, "aGUJARATI ! ZHAb* SUKUNcSHADDAcMADDAHcTHREE-DOT NUKTA ,cCIRCLE NUKTA ,
cTWO-CIRCLE NUKTA ,"⟩,
  ⟨0xb01, "aORIYA * CANDRABINDUcANUSVARAcVISARGA"⟩,
  ⟨0xb05, "aORIYA ! AcAAcIcIIcUcUUcVOCALIC RdL"⟩,
  ⟨0xb0f, "aORIYA ! EcAI"⟩,
  ⟨0xb13, "aORIYA ! OcAUcKAcKHAcGAcGHAcNGAcCAcCHAcJAcJHAcNYAcTTAcTTHAcDDAcDDHAcNNAcTAcTHAcDAcDHA
cNA"⟩,
  ⟨0xb2a, "aORIYA ! PAcPHAcBAcBHAcMAcYAcRA"⟩,
  ⟨0xb32, "aORIYA ! LAcLLA"⟩,
  ⟨0xb35, "aORIYA ! VAcSHAcSSAcSAcHA"⟩,
  ⟨0xb3c, "aORIYA * NUKTAcAVAGRAHAbVOWEL * AAdIdIIdUdUUdVOCALIC ReRR"⟩,
  ⟨0xb47, "aORIYA VOWEL * EdAI"⟩,
  ⟨0xb4b, "aORIYA VOWEL * OdAUb* VIRAMA"⟩,
  ⟨0xb55, "aORIYA * OVERLINEbAI LENGTH rbAU LENGTH r"⟩,
  ⟨0xb5c, "aORIYA ! RRAcRHA"⟩,
  ⟨0xb5f, "aORIYA ! YYAcVOCALIC RRdLLbVOWEL * VOCALIC LeLL"⟩,
  ⟨0xb66, "aORIYA DIGIT ZEROcONEcTWOc|cFOURcFIVEcSIXcSEVENcEIGHTcNINEbISSHARb! WA
bFRACTION ONE QUARTERdHALFc| QUARTERScONE SIXTEENTHdEIGHTHc| SIXTEENTHS"⟩,
  ⟨0xb82, "aTAMIL * ANUSVARAcVISARGA"⟩,
  ⟨0xb85, "aTAMIL ! AcAAcIcIIcUcUU"⟩,
  ⟨0xb8e, "aTAMIL ! EcEEcAI"⟩,
  ⟨0xb92, "aTAMIL ! OcOOcAUcKA"⟩,
  ⟨0xb99, "aTAMIL ! NGAcCA"⟩,
  ⟨0xb9c, "aTAMIL ! JA"⟩,
  ⟨0xb9e, "aTAMIL ! NYAcTTA"⟩,
  ⟨0xba3, "aTAMIL ! NNAcTA"⟩,
  ⟨0xba8, "aTAMIL ! NAcNNNAcPA"⟩,
  ⟨0xbae, "aTAMIL ! MAcYAcRAcRRAcLAcLLAcLLLAcVAcSHAcSSAcSAcHA"⟩,
  ⟨0xbbe, "aTAMIL VOWEL * AAdIdIIdUdUU"⟩,
  ⟨0xbc6, "aTAMIL VOWEL * EdEEdAI"⟩,
  ⟨0xbca, "aTAMIL VOWEL * OdOOdAUb* VIRAMA"⟩,
  ⟨0xbd0, "aTAMIL OM"⟩,
  ⟨0xbd7, "aTAMIL AU LENGTH r"⟩,
  ⟨0xbe6, "aTAMIL DIGIT ZEROcONEcTWOc|cFOURcFIVEcSIXcSEVENcEIGHTcNINEbNUMBER TENcONE tdvbDAY *
bMONTH *bYEAR *bDEBIT *bCREDIT *bAS , *bRUPEE *bNUMBER *"⟩,
  ⟨0xc00, "aTELUGU * COMBINING CANDRABINDU ,cCANDRABINDUcANUSVARAcVISARGAcCOMBINING ANUSVARA ,
b! AcAAcIcIIcUcUUcVOCALIC RdL"⟩,
  ⟨0xc0e, "aTELUGU ! EcEEcAI"⟩,
  ⟨0xc12, "aTELUGU ! OcOOcAUcKAcKHAcGAcGHAcNGAcCAcCHAcJAcJHAcNYAcTTAcTTHAcDDAcDDHAcNNAcTAcTHAcDA
cDHAcNA"⟩,
  ⟨0xc2a, "aTELUGU ! PAcPHAcBAcBHAcMAcYAcRAcRRAcLAcLLAcLLLAcVAcSHAcSSAcSAcHA"⟩,
  ⟨0xc3c, "aTELUGU * NUKTAcAVAGRAHAbVOWEL * AAdIdIIdUdUUdVOCALIC ReRR"⟩,
  ⟨0xc46, "aTELUGU VOWEL * EdEEdAI"⟩,
  ⟨0xc4a, "aTELUGU VOWEL * OdOOdAUb* VIRAMA"⟩,
  ⟨0xc55, "aTELUGU LENGTH rbAI LENGTH r"⟩,
  ⟨0xc58, "aTELUGU ! TSAcDZAcRRRA"⟩,
  ⟨0xc5d, "aTELUGU ! NAKAARA POLLU"⟩,
  ⟨0xc60, "aTELUGU ! VOCALIC RRdLLbVOWEL * VOCALIC LeLL"⟩,
  ⟨0xc66, "aTELUGU DIGIT ZEROcONEcTWOc|cFOURcFIVEcSIXcSEVENcEIGHTcNINE"⟩,
  ⟨0xc77, "aTELUGU * SIDDHAMbFRACTION DIGIT ZERO FOR ODD POWERS OF FOUR
dONE FOR ODD POWERS OF FOURdTWO FOR ODD POWERS OF FOURd| FOR ODD POWERS OF FOUR
dONE FOR EVEN POWERS OF FOURdTWO FOR EVEN POWERS OF FOURd| FOR EVEN POWERS OF FOURb* TUUMU
aKANNADA * SPACING CANDRABINDUcCANDRABINDUcANUSVARAcVISARGAcSIDDHAMb! AcAAcIcIIcUcUUcVOCALIC RdL"⟩,
  ⟨0xc8e, "aKANNADA ! EcEEcAI"⟩,
  ⟨0xc92, "aKANNADA ! OcOOcAUcKAcKHAcGAcGHAcNGAcCAcCHAcJAcJHAcNYAcTTAcTTHAcDDAcDDHAcNNAcTAcTHAcDA
cDHAcNA"⟩,
  ⟨0xcaa, "aKANNADA ! PAcPHAcBAcBHAcMAcYAcRAcRRAcLAcLLA"⟩,
  ⟨0xcb5, "aKANNADA ! VAcSHAcSSAcSAcHA"⟩,
  ⟨0xcbc, "aKANNADA * NUKTAcAVAGRAHAbVOWEL * AAdIdIIdUdUUdVOCALIC ReRR"⟩,
  ⟨0xcc6, "aKANNADA VOWEL * EdEEdAI"⟩,
  ⟨0xcca, "aKANNADA VOWEL * OdOOdAUb* VIRAMA"⟩,
  ⟨0xcd5, "aKANNADA LENGTH rbAI LENGTH r"⟩,
  ⟨0xcdd, "aKANNADA ! NAKAARA POLLUcFA"⟩,
  ⟨0xce0, "aKANNADA ! VOCALIC RRdLLbVOWEL * VOCALIC LeLL"⟩,
  ⟨0xce6, "aKANNADA DIGIT ZEROcONEcTWOc|cFOURcFIVEcSIXcSEVENcEIGHTcNINE"⟩,
  ⟨0xcf1, "aKANNADA * JIHVAMULIYAcUPADHMANIYA"⟩,
  ⟨0xcf3, "aKANNADA * COMBINING ANUSVARA , +"⟩,
  ⟨0xd00, "aMALAYALAM * COMBINING ANUSVARA ,cCANDRABINDUcANUSVARAcVISARGAb! VEDIC ANUSVARAcAcAAcI
cIIcUcUUcVOCALIC RdL"⟩,
  ⟨0xd0e, "aMALAYALAM ! EcEEcAI"⟩,
  ⟨0xd12, "aMALAYALAM ! OcOOcAUcKAcKHAcGAcGHAcNGAcCAcCHAcJAcJHAcNYAcTTAcTTHAcDDAcDDHAcNNAcTAcTHA
cDAcDHAcNAcNNNAcPAcPHAcBAcBHAcMAcYAcRAcRRAcLAcLLAcLLLAcVAcSHAcSSAcSAcHAcTTTAb* ? BAR VIRAMA
cCIRCULAR VIRAMAcAVAGRAHAbVOWEL * AAdIdIIdUdUUdVOCALIC ReRR"⟩,
  ⟨0xd46, "aMALAYALAM VOWEL * EdEEdAI"⟩,
  ⟨0xd4a, "aMALAYALAM VOWEL * OdOOdAUb* VIRAMAb! DOT REPHb* PARA"⟩,
  ⟨0xd54, "aMALAYALAM ! CHILLU MdYdLLLbAU LENGTH rbFRACTION ONE ONE-HUNDRED-AND-SIXTIETHdFORTIETH
c| EIGHTIETHScONE TWENTIETHdTENTHc| TWENTIETHScONE FIFTHb! ARCHAIC IIcVOCALIC RRdLL
bVOWEL * VOCALIC LeLL"⟩,
  ⟨0xd66, "aMALAYALAM DIGIT ZEROcONEcTWOc|cFOURcFIVEcSIXcSEVENcEIGHTcNINEbNUMBER TENcONE tdv
bFRACTION ONE QUARTERdHALFc| QUARTERScONE SIXTEENTHdEIGHTHc| SIXTEENTHSbDATE rb! CHILLU NNdNdRRdL
dLLdK"⟩,
  ⟨0xd81, "aSINHALA * CANDRABINDUcANUSVARAYAcVISARGAYA"⟩,
  ⟨0xd85, "aSINHALA ! AYANNAcAAYANNAcAEYANNAcAEEYANNAcIYANNAcIIYANNAcUYANNAcUUYANNAcIRUYANNA
cIRUUYANNAcILUYANNAcILUUYANNAcEYANNAcEEYANNAcAIYANNAcOYANNAcOOYANNAcAUYANNA"⟩,
  ⟨0xd9a, "aSINHALA ! ALPAPRAANA KAYANNAcMAHAAPRAANA KAYANNAcALPAPRAANA GAYANNA
cMAHAAPRAANA GAYANNAcKANTAJA NAASIKYAYAcSANYAKA GAYANNAcALPAPRAANA CAYANNAcMAHAAPRAANA CAYANNA
cALPAPRAANA JAYANNAcMAHAAPRAANA JAYANNAcTAALUJA NAASIKYAYAdSANYOOGA NAAKSIKYAYAcSANYAKA JAYANNA
cALPAPRAANA TTAYANNAcMAHAAPRAANA TTAYANNAcALPAPRAANA DDAYANNAcMAHAAPRAANA DDAYANNA
cMUURDHAJA NAYANNAcSANYAKA DDAYANNAcALPAPRAANA TAYANNAcMAHAAPRAANA TAYANNAcALPAPRAANA DAYANNA
cMAHAAPRAANA DAYANNAcDANTAJA NAYANNA"⟩,
  ⟨0xdb3, "aSINHALA ! SANYAKA DAYANNAcALPAPRAANA PAYANNAcMAHAAPRAANA PAYANNAcALPAPRAANA BAYANNA
cMAHAAPRAANA BAYANNAcMAYANNAcAMBA BAYANNAcYAYANNAcRAYANNA"⟩,
  ⟨0xdbd, "aSINHALA ! DANTAJA LAYANNA"⟩,
  ⟨0xdc0, "aSINHALA ! VAYANNAcTAALUJA SAYANNAcMUURDHAJA SAYANNAcDANTAJA SAYANNAcHAYANNA
cMUURDHAJA LAYANNAcFAYANNA"⟩,
  ⟨0xdca, "aSINHALA * AL-LAKUNA"⟩,
  ⟨0xdcf, "aSINHALA VOWEL * AELA-PILLAdKETTI AEDA-PILLAdDIGA AEDA-PILLAdKETTI IS-PILLA
dDIGA IS-PILLAdKETTI PAA-PILLA"⟩,
  ⟨0xdd6, "aSINHALA VOWEL * DIGA PAA-PILLA"⟩,
  ⟨0xdd8, "aSINHALA VOWEL * GAETTA-PILLAdKOMBUVAdDIGA KOMBUVAdKOMBU DEKAdKOMBUVA HAA AELA-PILLA
fDIGA AELA-PILLAfGAYANUKITTAdGAYANUKITTA"⟩,
  ⟨0xde6, "aSINHALA LITH DIGIT ZEROdONEdTWOd|dFOURdFIVEdSIXdSEVENdEIGHTdNINE"⟩,
  ⟨0xdf2, "aSINHALA VOWEL * DIGA GAETTA-PILLAeGAYANUKITTAbPUNCTUATION KUNDDALIYA"⟩,
  ⟨0xe01, "aTHAI CHARACTER KO KAIcKHO KHAIdKHUATdKHWAIdKHONdRAKHANGcNGO NGUcCHO CHANdCHINGdCHANG
cSO SOcCHO CHOEcYO YINGcDO CHADAcTO PATAKcTHO THANdNANGMONTHOdPHUTHAOcNO NENcDO DEKcTO TAO
cTHO THUNGdTHAHANdTHONGcNO NUcBO BAIMAIcPO PLAcPHO PHUNGcFO FAcPHO PHANcFO FANcPHO SAMPHAOcMO MA
cYO YAKcRO RUAcRUcLO LINGcLUcWO WAENcSO SALAdRUSIdSUAcHO HIPcLO CHULAcO ANGcHO NOKHUKcPAIYANNOI
cSARA AcMAI HAN-AKATcSARA AAdAMdIdIIdUEdUEEdUdUUcPHINTHU"⟩,
  ⟨0xe3f, "aTHAI CURRENCY n BAHTbCHARACTER SARA EdAEdOdAI MAIMUANeMAIMALAIcLAKKHANGYAOcMAIYAMOK
cMAITAIKHUcMAI EKdTHOdTRIdCHATTAWAcTHANTHAKHATcNIKHAHITcYAMAKKANcFONGMANbDIGIT ZEROcONEcTWOc|
cFOURcFIVEcSIXcSEVENcEIGHTcNINEbCHARACTER ANGKHANKHUcKHOMUT"⟩,
  ⟨0xe81, "aLAO ! KOcKHO SUNG"⟩,
  ⟨0xe84, "aLAO ! KHO TAM"⟩,
  ⟨0xe86, "aLAO ! PALI GHAcNGOcCOcPALI CHAcSO TAM"⟩,
  ⟨0xe8c, "aLAO ! PALI JHAcNYOcPALI NYAdTTAdTTHAdDDAdDDHAdNNAcDOcTOcTHO SUNGdTAMcPALI DHAcNOcBO
cPOcPHO SUNGcFO TAMcPHO TAMcFO SUNGcPALI BHAcMOcYOcLO LING"⟩,
  ⟨0xea5, "aLAO ! LO LOOT"⟩,
  ⟨0xea7, "aLAO ! WOcSANSKRIT SHAdSSAcSO SUNGcHO SUNGcPALI LLAcOcHO TAMbELLIPSISbVOWEL * A
dMAI KANdAAdAMdIdIIdYdYYdUdUUb* PALI VIRAMAbVOWEL * MAI KONbSEMIVOWEL * LOdNYO"⟩,
  ⟨0xec0, "aLAO VOWEL * EdEIdOdAYdAI"⟩,
  ⟨0xec6, "aLAO KO LA"⟩,
  ⟨0xec8, "aLAO TONE MAI EKdTHOdTIdCATAWAbCANCELLATION rbNIGGAHITA"⟩,
  ⟨0xece, "aLAO YAMAKKAN"⟩,
  ⟨0xed0, "aLAO DIGIT ZEROcONEcTWOc|cFOURcFIVEcSIXcSEVENcEIGHTcNINE"⟩,
  ⟨0xedc, "aLAO HO NOcMOb! KHMU GOdNYO"⟩,
  ⟨0xf00, "aTIBETAN SYLLABLE OMbr GTER YIG MGO TRUNCATED Af-UM RNAM BCAD MAgGTER TSHEG MA
c_ YIG MGO MDUN MAcCLOSING YIG MGO SGAB MAcCARET YIG MGO PHUR SHAD MAcYIG MGO TSHEG SHAD MA
cSBRUL SHADcBSKUR YIG MGOcBKA- SHOG YIG MGOcINTERSYLLABIC TSHEGcDELIMITER TSHEG BSTARcSHAD
cNYIS SHADcTSHEG SHADcNYIS TSHEG SHADcRIN CHEN SPUNGS SHADcRGYA GRAM SHAD
cCARET -DZUD RTAGS ME LONG CANcGTER TSHEGbLOGOTYPE * CHAD RTAGSdLHAG RTAGS
bASTROLOGICAL * SGRA GCAN -CHAR RTAGSd-KHYUD PAdSDONG TSHUGSb* RDEL DKAR GCIGeGNYISeGSUMdNAG GCIG
eGNYISdDKAR RDEL NAGbDIGIT ZEROcONEcTWOc|cFOURcFIVEcSIXcSEVENcEIGHTcNINEcHALF ONEdTWOd|dFOURdFIVE
dSIXdSEVENdEIGHTdNINEdZERObr BSDUS RTAGScNGAS BZUNG NYI ZLAcCARET -DZUD RTAGS BZHI MIG CAN
cNGAS BZUNG SGOR RTAGScCHE MGOcTSA -PHRUcGUG RTAGS GYONeGYAScANG KHANG GYONeGYASb* YAR TSHES
cMAR TSHESb! KAcKHAcGAcGHAcNGAcCAcCHAcJA"⟩,
  ⟨0xf49, "aTIBETAN ! NYAcTTAcTTHAcDDAcDDHAcNNAcTAcTHAcDAcDHAcNAcPAcPHAcBAcBHAcMAcTSAcTSHAcDZA
cDZHAcWAcZHAcZAc-AcYAcRAcLAcSHAcSSAcSAcHAcAcKSSAcFIXED-FORM RAcKKAcRRA"⟩,
  ⟨0xf71, "aTIBETAN VOWEL * AAdIdIIdUdUUdVOCALIC ReRReLeLLdEdEEdOdOOb* RJES SU NGA ROcRNAM BCAD
bVOWEL * REVERSED IeIIb* NYI ZLA NAA DAcSNA LDANbr HALANTAcPALUTAb* LCI RTAGScYANG RTAGS
cLCE TSA CANcMCHU CANcGRU CAN RGYINGSdMED RGYINGScINVERTED MCHU CANbSUBJOINED * LCE TSA CAN
dMCHU CANdINVERTED MCHU CANc! KAdKHAdGAdGHAdNGAdCAdCHAdJA"⟩,
  ⟨0xf99, "aTIBETAN SUBJOINED ! NYAdTTAdTTHAdDDAdDDHAdNNAdTAdTHAdDAdDHAdNAdPAdPHAdBAdBHAdMAdTSA
dTSHAdDZAdDZHAdWAdZHAdZAd-AdYAdRAdLAdSHAdSSAdSAdHAdAdKSSAdFIXED-FORM WAeYAeRA"⟩,
  ⟨0xfbe, "aTIBETAN KU RU KHAdKHA BZHI MIG CANbCANTILLATION * y BEATdLIGHT BEATdCANG TE-U
dSBUB -CHALbn DRIL BUcRDO RJEcPADMA GDANcRDO RJE RGYA GRAMcPHUR PAcNOR BUdBU NYIS -KHYIL
eGSUM -KHYILeBZHI -KHYIL"⟩,
  ⟨0xfce, "aTIBETAN * RDEL NAG RDEL DKAReGSUMbr BSKA- SHOG GI MGO RGYANcMNYAM YIG GI MGO RGYAN
cNYIS TSHEGc_ BRDA RNYING YIG MGO MDUN MAcCLOSING BRDA RNYING YIG MGO SGAB MA
aRIGHT-FACING SVASTI *aLEFT-FACING SVASTI *aRIGHT-FACING SVASTI * $ DOTS
aLEFT-FACING SVASTI * $ DOTSaTIBETAN r LEADING MCHAN RTAGScTRAILING MCHAN RTAGS"⟩]

end CallTree.Text.CharName
