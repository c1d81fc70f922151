import CallTree.Text.CharName.Packed

/-!
# Names of characters: East Asia

The characters from U+2A00 on and below U+A000 whose names follow no rule: further operators and
arrows, a few scripts, and the radicals, kana and enclosed forms of East Asia.
-/

namespace CallTree.Text.CharName

/-- The names of these characters. -/
def eastAsia : List Run := [
  ⟨0x2a00, "aN-ARY CIRCLED DOT OPERATORcPLUS OPERATORcTIMES OPERATORbUNION OPERATOR $ DOTePLUS
bSQUARE INTERSECTION OPERATORcUNION OPERATORaTWO LOGICAL > OPERATORcOR OPERATOR
aN-ARY TIMES OPERATORaMODULO TWO SUMaSUMMATION $ INTEGRALaQUADRUPLE INTEGRAL OPERATOR
aFINITE PART INTEGRALaINTEGRAL $ : mbAVERAGE $ SLASHaCIRCULATION FUNCTION
aANTICLOCKWISE INTEGRATIONaLINE INTEGRATION $ RECTANGULAR PATH AROUND POLE
dSEMICIRCULAR PATH AROUND POLEcNOT INCLUDING THE POLEaINTEGRAL AROUND A POINT OPERATOR
aQUATERNION INTEGRAL OPERATORaINTEGRAL $ ^ ) $ HOOKcTIMES *cINTERSECTIONcUNIONcOVERBARcUNDERBAR
aJOINaLARGE ; TRIANGLE OPERATORaZ NOTATION SCHEMA COMPOSITIONdPIPINGdPROJECTION
aPLUS * $ & CIRCLE ,dx ACCENT ,dTILDE ,dDOT <dTILDE <dSUBSCRIPT TWOdo TRIANGLEaMINUS * $ COMMA ,
dDOT <dFALLING DOTSdRISING DOTSaPLUS * IN ; HALF CIRCLEd+ HALF CIRCLEaVECTOR OR CROSS PRODUCT
aMULTIPLICATION * $ DOT ,dUNDERBARaSEMIDIRECT PRODUCT $ BOTTOM CLOSEDaSMASH PRODUCT
aMULTIPLICATION * IN ; HALF CIRCLEd+ HALF CIRCLEaCIRCLED MULTIPLICATION * $ x ACCENT
aMULTIPLICATION * IN : CIRCLEaCIRCLED DIVISION *aPLUS * IN TRIANGLEaMINUS * IN TRIANGLE
aMULTIPLICATION * IN TRIANGLEaINTERIOR PRODUCTaRIGHTHAND INTERIOR PRODUCT
aZ NOTATION RELATIONAL COMPOSITIONaAMALGAMATION OR COPRODUCTaINTERSECTION $ DOTaUNION $ MINUS *
cOVERBARaINTERSECTION $ OVERBARcLOGICAL >aUNION $ LOGICAL ORb, INTERSECTIONaINTERSECTION , UNION
aUNION , BAR , INTERSECTIONaINTERSECTION , BAR , UNIONaUNION BESIDE > JOINED $ UNION
aINTERSECTION BESIDE > JOINED $ INTERSECTIONaCLOSED UNION $ SERIFSbINTERSECTION $ SERIFS
a: SQUARE INTERSECTIONcUNIONaCLOSED UNION $ SERIFS > SMASH PRODUCTaLOGICAL > $ DOT ,bOR $ DOT ,
a: LOGICAL >cORaTWO INTERSECTING LOGICAL >dORaSLOPING LARGE ORc>aLOGICAL OR OVERLAPPING LOGICAL >
b> $ s STEMbOR $ s STEMb> $ p DASHbOR $ p DASHb> $ : OVERBARdUNDERBARd: UNDERBARa& VEE $ UNDERBAR
aLOGICAL OR $ : OVERBAReUNDERBARaZ NOTATION DOMAIN ANTIRESTRICTIONcRANGE ANTIRESTRICTION
aEQUALS * $ DOT <aIDENTICAL $ DOT ,aTRIPLE p BAR $ : ? meTRIPLE ? maTILDE OPERATOR $ DOT ,
dRISING DOTSaSIMILAR MINUS SIMILARaCONGRUENT $ DOT ,aEQUALS $ ASTERISKaALMOST EQUAL TO $ x ACCENT
aAPPROXIMATELY EQUAL OR EQUAL TOaEQUALS * , PLUS *aPLUS * , EQUALS *aEQUALS * , TILDE OPERATOR
a: COLON EQUALaTWO CONSECUTIVE EQUALS SIGNSa| CONSECUTIVE EQUALS SIGNS
aEQUALS * $ TWO DOTS , > TWO DOTS <aEQUIVALENT $ FOUR DOTS ,aLESS-THAN $ CIRCLE INSIDE
aGREATER-THAN $ CIRCLE INSIDEaLESS-THAN $ QUESTION r ,aGREATER-THAN $ QUESTION r ,
aLESS-THAN OR SLANTED EQUAL TOaGREATER-THAN OR SLANTED EQUAL TO
aLESS-THAN OR SLANTED EQUAL TO $ DOT INSIDEaGREATER-THAN OR SLANTED EQUAL TO $ DOT INSIDE
aLESS-THAN OR SLANTED EQUAL TO $ DOT ,aGREATER-THAN OR SLANTED EQUAL TO $ DOT ,
aLESS-THAN OR SLANTED EQUAL TO $ DOT , +aGREATER-THAN OR SLANTED EQUAL TO $ DOT , ;
aLESS-THAN OR APPROXIMATEaGREATER-THAN OR APPROXIMATEaLESS-THAN > SINGLE-LINE NOT EQUAL TO
aGREATER-THAN > SINGLE-LINE NOT EQUAL TOaLESS-THAN > NOT APPROXIMATE
aGREATER-THAN > NOT APPROXIMATEaLESS-THAN , DOUBLE-LINE EQUAL , GREATER-THAN
aGREATER-THAN , DOUBLE-LINE EQUAL , LESS-THANaLESS-THAN , SIMILAR OR EQUAL
aGREATER-THAN , SIMILAR OR EQUALaLESS-THAN , SIMILAR , GREATER-THAN
aGREATER-THAN , SIMILAR , LESS-THANaLESS-THAN , GREATER-THAN , DOUBLE-LINE EQUAL
aGREATER-THAN , LESS-THAN , DOUBLE-LINE EQUAL
aLESS-THAN , SLANTED EQUAL , GREATER-THAN , SLANTED EQUAL
aGREATER-THAN , SLANTED EQUAL , LESS-THAN , SLANTED EQUALaSLANTED EQUAL TO OR LESS-THAN
eGREATER-THANeLESS-THAN $ DOT INSIDEeGREATER-THAN $ DOT INSIDEaDOUBLE-LINE EQUAL TO OR LESS-THAN
eGREATER-THANbSLANTED EQUAL TO OR LESS-THANfGREATER-THANaSIMILAR OR LESS-THANcGREATER-THAN
b, LESS-THAN , EQUALS *cGREATER-THAN , EQUALS *a: NESTED LESS-THANcGREATER-THAN
cLESS-THAN $ UNDERBARaGREATER-THAN OVERLAPPING LESS-THANbBESIDE LESS-THAN
aLESS-THAN CLOSED BY CURVEaGREATER-THAN CLOSED BY CURVEaLESS-THAN CLOSED BY CURVE , SLANTED EQUAL
aGREATER-THAN CLOSED BY CURVE , SLANTED EQUALaSMALLER THANaLARGER THANaSMALLER THAN OR EQUAL TO
aLARGER THAN OR EQUAL TOaEQUALS * $ BUMPY ,aPRECEDES , SINGLE-LINE EQUALS *
aSUCCEEDS , SINGLE-LINE EQUALS *aPRECEDES , SINGLE-LINE NOT EQUAL TO
aSUCCEEDS , SINGLE-LINE NOT EQUAL TOaPRECEDES , EQUALS *aSUCCEEDS , EQUALS *
aPRECEDES , NOT EQUAL TOaSUCCEEDS , NOT EQUAL TOaPRECEDES , ALMOST EQUAL TO
aSUCCEEDS , ALMOST EQUAL TOaPRECEDES , NOT ALMOST EQUAL TOaSUCCEEDS , NOT ALMOST EQUAL TO
a: PRECEDESbSUCCEEDSaSUBSET $ DOTaSUPERSET $ DOTaSUBSET $ PLUS * <aSUPERSET $ PLUS * <
aSUBSET $ MULTIPLICATION * <aSUPERSET $ MULTIPLICATION * <aSUBSET OF OR EQUAL TO $ DOT ,
aSUPERSET OF OR EQUAL TO $ DOT ,aSUBSET OF , EQUALS *aSUPERSET OF , EQUALS *
aSUBSET OF , TILDE OPERATORaSUPERSET OF , TILDE OPERATORaSUBSET OF , ALMOST EQUAL TO
aSUPERSET OF , ALMOST EQUAL TOaSUBSET OF , NOT EQUAL TOaSUPERSET OF , NOT EQUAL TO
aSQUARE ; OPEN BOX OPERATORb+ OPEN BOX OPERATORaCLOSED SUBSETbSUPERSETbSUBSET OR EQUAL TO
bSUPERSET OR EQUAL TOaSUBSET , SUPERSETaSUPERSET , SUBSETaSUBSET , SUBSETaSUPERSET , SUPERSET
bBESIDE SUBSETc> JOINED BY DASH $ SUBSETaELEMENT OF OPENING uaPITCHFORK $ TEE TOP
aTRANSVERSAL INTERSECTIONaFORKINGaNONFORKINGaSHORT ; TACKbDOWN TACKbUP TACKaPERPENDICULAR $ S
a? BAR TRIPLE + TURNSTILEa: ? BAR ; TURNSTILEa? BAR : ; TURNSTILEa: ? BAR : ; TURNSTILE
aLONG DASH FROM ; MEMBER OF : ?aSHORT DOWN TACK $ OVERBARbUP TACK $ UNDERBARd, SHORT DOWN TACK
a: DOWN TACKbUP TACKbm NOT *aREVERSED : m NOT *aDOES NOT DIVIDE $ REVERSED NEGATION SLASH
a? LINE $ CIRCLE ,e<aDOWN TACK $ CIRCLE <aPARALLEL $ p mcTILDE OPERATOR
aTRIPLE ? BAR BINARY RELATIONd$ p mbCOLON OPERATORbNESTED LESS-THANcGREATER-THAN
aDOUBLE-LINE SLANTED LESS-THAN OR EQUAL TOcGREATER-THAN OR EQUAL TO
aTRIPLE SOLIDUS BINARY RELATIONaLARGE TRIPLE ? BAR OPERATORa: SOLIDUS OPERATORaq ? BAR
aN-ARY q ? BARaNORTH EAST q )bWEST q )aSOUTH EAST q )bWEST q )a; + q )a^ o )aUPWARDS o )au o )
aNORTH EAST o )bWEST o )aSOUTH EAST o )bWEST o )a; + o )aUP DOWN o )a/ ) $ TIP ueUPWARDS
a^ ) $ TIP ueUPWARDSaSQUARE $ TOP HALF ocBOTTOM HALF ocUPPER + DIAGONAL HALF o
cLOWER ; DIAGONAL HALF oaDIAMOND $ ; HALF oc+ HALF ocTOP HALF ocBOTTOM HALF oaDOTTED SQUARE
ao LARGE SQUAREaq LARGE SQUAREao VERY & SQUAREaq VERY & SQUAREao PENTAGONaq PENTAGONbHEXAGON
ao HEXAGONap o HEXAGONao LARGE CIRCLEbMEDIUM DIAMONDaq MEDIUM DIAMONDao MEDIUM LOZENGE
aq MEDIUM LOZENGEao & DIAMONDcLOZENGEaq & LOZENGEao p ELLIPSEaq p ELLIPSEao ? ELLIPSEaq ? ELLIPSE
a; ) $ & CIRCLEa| ^ ARROWSa; ) $ CIRCLED PLUSaLONG ^ SQUIGGLE )a^ TWO-HEADED ) $ ? me: ? m
dFROM BARcTRIPLE DASH )b) $ DOTTED STEMdTAIL $ ? mf: ? mbTWO-HEADED ) $ TAILeTAIL $ ? mg: ? m
b) THROUGH XaWAVE ) POINTING DIRECTLY ;aEQUALS * , ^ )aREVERSE TILDE OPERATOR , ^ )
a^ ) , REVERSE ALMOST EQUAL TOa/ ) THROUGH GREATER-THANdSUPERSETa^ QUADRUPLE )a/ QUADRUPLE )
aREVERSE TILDE OPERATOR , / )a/ ) , REVERSE ALMOST EQUAL TOaTILDE OPERATOR , ^ )
a^ ) , ALMOST EQUAL TOdREVERSE TILDE OPERATORa/ ) , REVERSE TILDE OPERATORau ~ ZIGZAG )
aSHORT SLANTED NORTH )bBACKSLANTED SOUTH )aq MEDIUM STARao & STARaq & STAR
ao RIGHT-POINTING PENTAGONaq RIGHT-POINTING PENTAGONay LARGE CIRCLEbOVAL $ OVAL INSIDE
bCIRCLE $ CIRCLE INSIDEbCIRCLEbCIRCLED SALTIREaSLANTED NORTH ) $ HOOKED HEAD
aBACKSLANTED SOUTH ) $ HOOKED TAILaSLANTED NORTH ) $ p TAILaBACKSLANTED SOUTH ) $ p TAIL
aBENT ) POINTING u THEN NORTH EASTaSHORT BENT ) POINTING u THEN NORTH EASTa^ ~ )aUPWARDS ~ )
a/ ~ )au ~ )a; + ~ )aUP DOWN ~ )aNORTH WEST ~ )bEAST ~ )aSOUTH EAST ~ )bWEST ~ )a^ ~ DASHED )
aUPWARDS ~ DASHED )a/ ~ DASHED )au ~ DASHED )aCLOCKWISE ~ OPEN CIRCLE )
aANTICLOCKWISE ~ OPEN CIRCLE )a^ ~ ) TO BARaUPWARDS ~ ) TO BARa/ ~ ) TO BARau ~ ) TO BAR"⟩,
  ⟨0x2b76, "aNORTH WEST ~ ) TO BARbEAST ~ ) TO BARaSOUTH EAST ~ ) TO BARbWEST ~ ) TO BAR
a^ ~ ) $ : p maUPWARDS ~ ) $ : p ma/ ~ ) $ : p mau ~ ) $ : p map TAB KEYa? TAB KEY
a^ ~ ) OVER / ~ )aUPWARDS ~ ) ^ OF u ~ )a/ ~ ) OVER ^ ~ )au ~ ) ^ OF UPWARDS ~ )
a^ ~ PAIRED ARROWSaUPWARDS ~ PAIRED ARROWSa/ ~ PAIRED ARROWSau ~ PAIRED ARROWSa^ o CIRCLED q )
aUPWARDS o CIRCLED q )a/ o CIRCLED q )au o CIRCLED q )aANTICLOCKWISE ~ + U-SHAPED )
cBOTTOM U-SHAPED )c; U-SHAPED )cTOP U-SHAPED )aRETURN ;b+aNEWLINE ;b+
aFOUR CORNER ARROWS CIRCLING ANTICLOCKWISEa/ o )"⟩,
  ⟨0x2b97, "an FOR TYPE A ELECTRONICSaTHREE-D TOP-LIGHTED ^ EQUILATERAL ARROWHEAD
bRIGHT-LIGHTED UPWARDS EQUILATERAL ARROWHEADbTOP-LIGHTED / EQUILATERAL ARROWHEAD
bLEFT-LIGHTED u EQUILATERAL ARROWHEADao ^ EQUILATERAL ARROWHEADbUPWARDS EQUILATERAL ARROWHEAD
b/ EQUILATERAL ARROWHEADbu EQUILATERAL ARROWHEADau ~ ) $ LONG TIP ^g/aUPWARDS ~ ) $ LONG TIP ^g/
a^ ~ ) $ LONG TIP UPWARDSa/ ~ ) $ LONG TIP UPWARDSa^ ~ ) $ LONG TIP ua/ ~ ) $ LONG TIP u
ao CURVED u > ^ )e/ )cUPWARDS > ^ )e/ )c^ > UPWARDS )c/ > UPWARDS )c^ > u )c/ > u )
aRIBBON ) DOWN ;d+cUP ;d+c; UPc+ UPc; DOWNc+ DOWNaUPWARDS q ) FROM BAR $ p BAR
aUP ARROWHEAD IN A RECTANGLE BOXaOVERLAPPING q SQUARESc> o SQUARESbo SQUARESaBALLOT BOX $ LIGHT X
aCIRCLED XbBOLD Xao SQUARE CENTREDbDIAMOND CENTREDaTURNED o PENTAGONap o OCTAGONao OCTAGON
bMEDIUM UP-POINTING TRIANGLE CENTREDcDOWN-POINTING TRIANGLE CENTRED
cLEFT-POINTING TRIANGLE CENTREDcRIGHT-POINTING TRIANGLE CENTREDaNEPTUNE ( TWOaTOP HALF o CIRCLE
aBOTTOM HALF o CIRCLEaLIGHT FOUR POINTED o CUSPaROTATED LIGHT FOUR POINTED o CUSP
aq FOUR POINTED CUSPaROTATED q FOUR POINTED CUSPaSQUARE POSITION INDICATORaUNCERTAINTY *aGROUP r
aPLUTO ( TWOc|cFOURcFIVEaTRANSPLUTOaPROSERPINAaASTRAEAaHYGIEAaPHOLUSaNESSUSaq MOON SELENA
ao DIAMOND ON CROSSaTRUE LIGHT MOON ARTAaCUPIDOaHADESaZEUSaKRONOSaAPOLLONaADMETOSaVULCANUS
aPOSEIDONa; HALF o STARa+ HALF o STARaSTAR $ ; HALF oc+ HALF o
a^ TWO-HEADED ) $ TRIANGLE ARROWHEADSaUPWARDS TWO-HEADED ) $ TRIANGLE ARROWHEADS
a/ TWO-HEADED ) $ TRIANGLE ARROWHEADSau TWO-HEADED ) $ TRIANGLE ARROWHEADSaERIS ( ONEcTWOaSEDNA
aRUSSIAN ASTROLOGICAL n VIGINTILEdNOVILEdQUINTILEdBINOVILEdSENTAGONdTREDECILE
aEQUALS * $ INFINITY <aUNITED naSEPARATED naDOUBLED naPASSED naREVERSED + ANGLE
aHELLSCHREIBER PAUSE naGLAGOLITIC % ! AZUdBUKYdVEDEdGLAGOLIdDOBROdYESTUdZHIVETEdDZELOdZEMLJAdIZHE
d_ IZHEdIdDJERVIdKAKOdLJUDIJEdMYSLITEdNASHIdONUdPOKOJIdRITSIdSLOVOdTVRIDOdUKUdFRITUdHERUdOTUdPE
dSHTAdTSIdCHRIVIdSHAdYERUdYERIdYATIdSPIDERY HAdYUd& YUSeYUS $ TAILdYOdIOTATED & YUSdBIG YUS
dIOTATED BIG YUSdFITAdIZHITSAdSHTAPICdTROKUTASTI AdLATINATE MYSLITEdCAUDATE CHRIVIb& ! AZUdBUKY
dVEDEdGLAGOLIdDOBROdYESTUdZHIVETEdDZELOdZEMLJAdIZHEd_ IZHEdIdDJERVIdKAKOdLJUDIJEdMYSLITEdNASHI
dONUdPOKOJIdRITSIdSLOVOdTVRIDOdUKUdFRITUdHERUdOTUdPEdSHTAdTSIdCHRIVIdSHAdYERUdYERIdYATI
dSPIDERY HAdYUd& YUSeYUS $ TAILdYOdIOTATED & YUSdBIG YUSdIOTATED BIG YUSdFITAdIZHITSAdSHTAPIC
dTROKUTASTI AdLATINATE MYSLITEdCAUDATE CHRIVIaLATIN % ! L $ : BARb& ! L $ : BARb% ! L $ s TILDE
dP $ mdR $ TAILb& ! A $ mdT $ DIAGONAL mb% ! H $ DESCENDERb& ! H $ DESCENDERb% ! K $ DESCENDER
b& ! K $ DESCENDERb% ! Z $ DESCENDERb& ! Z $ DESCENDERb% ! ALPHAdM $ HOOKdTURNED AeALPHA
b& ! V $ + HOOKb% ! W $ HOOKb& ! W $ HOOKdV $ CURLb% ! HALF Hb& ! HALF HdTAILLESS PHIdE $ NOTCH
dTURNED R $ TAILdO $ LOW RING INSIDEb! & % TURNED EbSUBSCRIPT & ! JaMODIFIER ! % V
aLATIN % ! S $ SWASH TAILdZ $ SWASH TAILaCOPTIC % ! ALFAb& ! ALFAb% ! VIDAb& ! VIDAb% ! GAMMA
b& ! GAMMAb% ! DALDAb& ! DALDAb% ! EIEb& ! EIEb% ! SOUb& ! SOUb% ! ZATAb& ! ZATAb% ! HATE
b& ! HATEb% ! THETHEb& ! THETHEb% ! IAUDAb& ! IAUDAb% ! KAPAb& ! KAPAb% ! LAULAb& ! LAULAb% ! MI
b& ! MIb% ! NIb& ! NIb% ! KSIb& ! KSIb% ! Ob& ! Ob% ! PIb& ! PIb% ! ROb& ! ROb% ! SIMAb& ! SIMA
b% ! TAUb& ! TAUb% ! UAb& ! UAb% ! FIb& ! FIb% ! KHIb& ! KHIb% ! PSIb& ! PSIb% ! OOUb& ! OOU
b% ! DIALECT-P ALEFb& ! DIALECT-P ALEFb% ! OLD COPTIC AINb& ! OLD COPTIC AIN
b% ! CRYPTOGRAMMIC EIEb& ! CRYPTOGRAMMIC EIEb% ! DIALECT-P KAPAb& ! DIALECT-P KAPA
b% ! DIALECT-P NIb& ! DIALECT-P NIb% ! CRYPTOGRAMMIC NIb& ! CRYPTOGRAMMIC NIb% ! OLD COPTIC OOU
b& ! OLD COPTIC OOUb% ! SAMPIb& ! SAMPIb% ! CROSSED SHEIb& ! CROSSED SHEIb% ! OLD COPTIC SHEI
b& ! OLD COPTIC SHEIb% ! OLD COPTIC ESHb& ! OLD COPTIC ESHb% ! AKHMIMIC KHEIb& ! AKHMIMIC KHEI
b% ! DIALECT-P HORIb& ! DIALECT-P HORIb% ! OLD COPTIC HORIb& ! OLD COPTIC HORIb% ! OLD COPTIC HA
b& ! OLD COPTIC HAb% ! L-SHAPED HAb& ! L-SHAPED HAb% ! OLD COPTIC HEIb& ! OLD COPTIC HEI
b% ! OLD COPTIC HATb& ! OLD COPTIC HATb% ! OLD COPTIC GANGIAb& ! OLD COPTIC GANGIA
b% ! OLD COPTIC DJAb& ! OLD COPTIC DJAb% ! OLD COPTIC SHIMAb& ! OLD COPTIC SHIMA
b% ! OLD NUBIAN SHIMAb& ! OLD NUBIAN SHIMAb% ! OLD NUBIAN NGIb& ! OLD NUBIAN NGI
b% ! OLD NUBIAN NYIb& ! OLD NUBIAN NYIb% ! OLD NUBIAN WAUb& ! OLD NUBIAN WAUbn KAIcMI ROcPI RO
cSTAUROScTAU ROcKHI ROcSHIMA SIMAb% ! CRYPTOGRAMMIC SHEIb& ! CRYPTOGRAMMIC SHEI
b% ! CRYPTOGRAMMIC GANGIAb& ! CRYPTOGRAMMIC GANGIAbCOMBINING NI ,cSPIRITUS ASPERdLENIS
b% ! BOHAIRIC KHEIb& ! BOHAIRIC KHEI"⟩,
  ⟨0x2cf9, "aCOPTIC OLD NUBIAN FULL STOPdDIRECT QUESTION rdINDIRECT QUESTION rdVERSE DIVIDER
bFRACTION ONE HALFbFULL STOPbMORPHOLOGICAL DIVIDERaGEORGIAN & ! ANdBANdGANdDONdENdVINdZENdTANdIN
dKANdLASdMANdNARdONdPARdZHARdRAEdSANdTARdUNdPHARdKHARdGHANdQARdSHINdCHINdCANdJILdCILdCHARdXAN
dJHANdHAEdHEdHIEdWEdHARdHOE"⟩,
  ⟨0x2d27, "aGEORGIAN & ! YN"⟩,
  ⟨0x2d2d, "aGEORGIAN & ! AEN"⟩,
  ⟨0x2d30, "aTIFINAGH ! YAcYABcYABHcYAGcYAGHHcBERBER ACADEMY YAJcYAJcYADcYADHcYADDcYADDHcYEYcYAF
cYAKcTUAREG YAKcYAKHHcYAHcBERBER ACADEMY YAHcTUAREG YAHcYAHHcYAAcYAKHcTUAREG YAKHcYAQcTUAREG YAQ
cYIcYAZHcAHAGGAR YAZHcTUAREG YAZHcYALzzcTUAREG YAGNdYANGcYAPcYUcYARcYARRcYAGHcTUAREG YAGH
cAYER YAGHcYAScYASScYASHcYATcYATHcYACHcYATTcYAVzcYAYzcTAWELLEMET YAZcYAZZcYEcYO"⟩,
  ⟨0x2d6f, "aTIFINAGH MODIFIER ! LABIALIZATION rbSEPARATOR r"⟩,
  ⟨0x2d7f, "aTIFINAGH CONSONANT JOINERaETHIOPIC SYLLABLE LOAcMOAcROAcSOAcSHOAcBOAcTOAcCOAcNOA
cNYOAcGLOTTAL OAcZOAcDOAcDDOAcJOAcTHOAcCHOAcPHOAcPOAcGGWAcGGWIcGGWEEcGGWE"⟩,
  ⟨0x2da0, "aETHIOPIC SYLLABLE SSAcSSUcSSIcSSAAcSSEEcSSEcSSO"⟩,
  ⟨0x2da8, "aETHIOPIC SYLLABLE CCAcCCUcCCIcCCAAcCCEEcCCEcCCO"⟩,
  ⟨0x2db0, "aETHIOPIC SYLLABLE ZZAcZZUcZZIcZZAAcZZEEcZZEcZZO"⟩,
  ⟨0x2db8, "aETHIOPIC SYLLABLE CCHAcCCHUcCCHIcCCHAAcCCHEEcCCHEcCCHO"⟩,
  ⟨0x2dc0, "aETHIOPIC SYLLABLE QYAcQYUcQYIcQYAAcQYEEcQYEcQYO"⟩,
  ⟨0x2dc8, "aETHIOPIC SYLLABLE KYAcKYUcKYIcKYAAcKYEEcKYEcKYO"⟩,
  ⟨0x2dd0, "aETHIOPIC SYLLABLE XYAcXYUcXYIcXYAAcXYEEcXYEcXYO"⟩,
  ⟨0x2dd8, "aETHIOPIC SYLLABLE GYAcGYUcGYIcGYAAcGYEEcGYEcGYO"⟩,
  ⟨0x2de0, "aCOMBINING CYRILLIC ! BEdVEdGHEdDEdZHEdZEdKAdELzzdOdPEdERzdTEdHAdTSEdCHEdSHAdSHCHA
dFITAdES-TEdAdIEdDJERVdMONOGRAPH UKdYATdYUdIOTIFIED AdLITTLE YUSdBIG YUSdIOTIFIED BIG YUS
a+ ANGLE SUBSTITUTION MARKERcDOTTED SUBSTITUTION MARKERa; SUBSTITUTION wa+ SUBSTITUTION w
a; DOTTED SUBSTITUTION wa+ DOTTED SUBSTITUTION waRAISED INTERPOLATION MARKER
bDOTTED INTERPOLATION MARKERaDOTTED TRANSPOSITION MARKERa; TRANSPOSITION wa+ TRANSPOSITION w
aRAISED SQUAREa; RAISED OMISSION wa+ RAISED OMISSION waEDITORIAL CORONISaPARAGRAPHOS
aFORKED PARAGRAPHOSaREVERSED FORKED PARAGRAPHOSaHYPODIASTOLEaDOTTED OBELOSau ANCORA
aUPWARDS ANCORAaDOTTED RIGHT-POINTING ANGLEa: OBLIQUE HYPHENaINVERTED INTERROBANGaPALM BRANCH
aHYPHEN $ DIAERESISaTILDE $ RING ,a; LOW PARAPHRASE wa+ LOW PARAPHRASE waTILDE $ DOT ,d<
a; ? BAR $ QUILLa+ ? BAR $ QUILLaTOP ; HALF wb+ HALF waBOTTOM ; HALF wb+ HALF wa; SIDEWAYS U w
a+ SIDEWAYS U wa; : PARENTHESISa+ : PARENTHESISaTWO DOTS OVER ONE DOT PUNCTUATION
aONE DOT OVER TWO DOTS PUNCTUATIONaSQUARED FOUR DOT PUNCTUATIONaFIVE DOT raREVERSED QUESTION r
a? TILDEaRING POINTaWORD SEPARATOR s DOTaTURNED COMMAaRAISED DOTbCOMMAaTURNED SEMICOLON
aDAGGER $ ; GUARDc+ GUARDaTURNED DAGGERaTOP HALF SECTION *aTWO-EM DASHaTHREE-EM DASH
aSTENOGRAPHIC FULL STOPa? SIX DOTSaWIGGLY ? LINEaCAPITULUMa: HYPHENaREVERSED COMMA
a: LOW-REVERSED-9 QUOTATION raDASH $ ; UPTURNa: SUSPENSION raINVERTED LOW KAVYKA
cKAVYKA $ KAVYKA ,aLOW KAVYKAbKAVYKA $ DOTa: STACKED COMMAaDOTTED SOLIDUSaTRIPLE DAGGER
aMEDIEVAL COMMAaPARAGRAPHUS raPUNCTUS ELEVATUS raCORNISH VERSE DIVIDERaCROSS PATTY $ + CROSSBAR
d; CROSSBARaTIRONIAN * % ETaMEDIEVAL EXCLAMATION rbQUESTION ra; SQUARE w $ ma+ SQUARE w $ m
a; SQUARE w $ : ma+ SQUARE w $ : maTOP HALF ; PARENTHESISc+ PARENTHESISaBOTTOM HALF ; PARENTHESIS
c+ PARENTHESISaOBLIQUE HYPHEN"⟩,
  ⟨0x2e80, "aCJK RADICAL REPEATcCLIFFcSECOND ONEdTWOd|cPERSONcBOXcTABLEcKNIFE ONEdTWOcDIVINATION
cSEALc& ONEdTWOcLAME ONEdTWOd|dFOURcSNAKEcTHREADcSNOUT ONEdTWOcHEART ONEdTWOcHANDcRAP"⟩,
  ⟨0x2e9b, "aCJK RADICAL CHOKEcSUNcMOONcDEATHcMOTHERcCIVILIANcWATER ONEdTWOcFIREcPAW ONEdTWO
cSIMPLIFIED HALF TREE TRUNKcCOWcDOGcJADEcBOLT OF CLOTHcEYEcSPIRIT ONEdTWOcBAMBOOcSILK
cC-SIMPLIFIED SILKcNET ONEdTWOd|dFOURcMESHcSHEEPcRAMcEWEcOLDcBRUSH ONEdTWOcMEATcMORTARcGRASS ONE
dTWOd|cTIGERcCLOTHEScWEST ONEdTWOcC-SIMPLIFIED SEEcSIMPLIFIED HORNcHORNcC-SIMPLIFIED SPEECHdSHELL
cFOOTcC-SIMPLIFIED CARTcSIMPLIFIED WALKcWALK ONEdTWOcCITYcC-SIMPLIFIED GOLDcLONG ONEdTWO
cC-SIMPLIFIED LONGdGATEcMOUND ONEdTWOcRAINcBLUEcC-SIMPLIFIED TANNED LEATHERdLEAFdWINDdFLYcEAT ONE
dTWOd|cC-SIMPLIFIED EATcHEADcC-SIMPLIFIED HORSEcBONEcGHOSTcC-SIMPLIFIED FISHdBIRDdSALT
cSIMPLIFIED WHEATdYELLOWcC-SIMPLIFIED FROGcJ-SIMPLIFIED EVENcC-SIMPLIFIED EVENcJ-SIMPLIFIED TOOTH
cC-SIMPLIFIED TOOTHcJ-SIMPLIFIED DRAGONcC-SIMPLIFIED DRAGONcTURTLEcJ-SIMPLIFIED TURTLE
cC-SIMPLIFIED TURTLE"⟩,
  ⟨0x2f00, "aKANGXI RADICAL ONEcLINEcDOTcSLASHcSECONDcHOOKcTWOcLIDcMANcLEGScENTERcEIGHTcDOWN BOX
cCOVERcICEcTABLEcOPEN BOXcKNIFEcPOWERcWRAPcSPOONc+ OPEN BOXcHIDING ENCLOSUREcTENcDIVINATIONcSEAL
cCLIFFcPRIVATEcAGAINcMOUTHcENCLOSUREcEARTHcSCHOLARcGOcGO SLOWLYcEVENINGcBIGcWOMANcCHILDcROOFcINCH
c&cLAMEcCORPSEcSPROUTcMOUNTAINcRIVERcWORKcONESELFcTURBANcDRYcSHORT THREADcDOTTED CLIFF
cLONG STRIDEcTWO HANDScSHOOTcBOWcSNOUTcBRISTLEcSTEPcHEARTcHALBERDcDOORcHANDcBRANCHcRAPcSCRIPT
cDIPPERcAXEcSQUAREcNOTcSUNcSAYcMOONcTREEcLACKcSTOPcDEATHcWEAPONcDO NOTcCOMPAREcFURcCLANcSTEAM
cWATERcFIREcCLAWcFATHERc: XcHALF TREE TRUNKcSLICEcFANGcCOWcDOGcPROFOUNDcJADEcMELONcTILEcSWEET
cLIFEcUSEcFIELDcBOLT OF CLOTHcSICKNESScDOTTED TENTcqcSKINcDISHcEYEcSPEARc)cSTONEcSPIRITcTRACK
cGRAINcCAVEcSTANDcBAMBOOcRICEcSILKcJARcNETcSHEEPcFEATHERcOLDc>cPLOWcEARcBRUSHcMEATcMINISTERcSELF
cARRIVEcMORTARcTONGUEcOPPOSEcBOATcSTOPPINGcCOLORcGRASScTIGERcINSECTcBLOODcWALK ENCLOSUREcCLOTHES
cWESTcSEEcHORNcSPEECHcVALLEYcBEANcPIGcBADGERcSHELLcREDcRUNcFOOTcBODYcCARTcBITTERcMORNINGcWALK
cCITYcWINEcDISTINGUISHcVILLAGEcGOLDcLONGcGATEcMOUNDcSLAVEcSHORT TAILED BIRDcRAINcBLUEcWRONGcFACE
cLEATHERcTANNED LEATHERcLEEKcSOUNDcLEAFcWINDcFLYcEATcHEADcFRAGRANTcHORSEcBONEcTALLcHAIRcFIGHT
cSACRIFICIAL WINEcCAULDRONcGHOSTcFISHcBIRDcSALTcDEERcWHEATcHEMPcYELLOWcMILLETcocEMBROIDERYcFROG
cTRIPODcDRUMcRATcNOSEcEVENcTOOTHcDRAGONcTURTLEcFLUTE"⟩,
  ⟨0x2ff0, "aIDEOGRAPHIC DESCRIPTION CHARACTER ; TO +d, TO <d; TO s > +d, TO s > <dFULL SURROUND
dSURROUND FROM ,f<f;fUPPER ;g+fLOWER ;dOVERLAID"⟩,
  ⟨0x3000, "aIDEOGRAPHIC SPACEbCOMMAbFULL STOPaDITTO raJAPANESE INDUSTRIAL STANDARD n
aIDEOGRAPHIC ITERATION rbCLOSING rbNUMBER ZEROa; ANGLE wa+ ANGLE wa; : ANGLE wa+ : ANGLE w
a; CORNER wa+ CORNER wa; q CORNER wa+ q CORNER wa; o LENTICULAR wa+ o LENTICULAR waPOSTAL r
aGETA ra; TORTOISE SHELL wa+ TORTOISE SHELL wa; q LENTICULAR wa+ q LENTICULAR w
a; q TORTOISE SHELL wa+ q TORTOISE SHELL wa; q SQUARE wa+ q SQUARE waWAVE DASH
aREVERSED : PRIME QUOTATION ra: PRIME QUOTATION raLOW : PRIME QUOTATION raPOSTAL r FACE
aHANGZHOU NUMERAL ONEcTWOc|cFOURcFIVEcSIXcSEVENcEIGHTcNINEaIDEOGRAPHIC LEVEL TONE rbRISING TONE r
bDEPARTING TONE rbENTERING TONE raHANGUL SINGLE DOT TONE rb: DOT TONE raWAVY DASHa? KANA REPEAT r
d$ VOICED SOUND rdr UPPER HALFd$ VOICED SOUND r UPPER HALFdr LOWER HALFaCIRCLED POSTAL r
aIDEOGRAPHIC TELEGRAPH LINE FEED SEPARATOR naHANGZHOU NUMERAL TENcTWENTYcTHIRTY
a? IDEOGRAPHIC ITERATION raMASU raPART ALTERNATION raIDEOGRAPHIC VARIATION INDICATOR
bHALF FILL SPACE"⟩,
  ⟨0x3041, "aHIRAGANA ! & AcAc& IcIc& UcUc& EcEc& OcOcKAcGAcKIcGIcKUcGUcKEcGEcKOcGOcSAcZAcSIcZI
cSUcZUcSEcZEcSOcZOcTAcDAcTIcDIc& TUcTUcDUcTEcDEcTOcDOcNAcNIcNUcNEcNOcHAcBAcPAcHIcBIcPIcHUcBUcPU
cHEcBEcPEcHOcBOcPOcMAcMIcMUcMEcMOc& YAcYAc& YUcYUc& YOcYOcRAcRIcRUcREcROc& WAcWAcWIcWEcWOcNcVU
c& KAdKE"⟩,
  ⟨0x3099, "aCOMBINING KATAKANA-HIRAGANA VOICED SOUND rcSEMI-VOICED SOUND r
aKATAKANA-HIRAGANA VOICED SOUND rbSEMI-VOICED SOUND raHIRAGANA ITERATION rbVOICED ITERATION r
bDIGRAPH YORIaKATAKANA-HIRAGANA : HYPHENaKATAKANA ! & AcAc& IcIc& UcUc& EcEc& OcOcKAcGAcKIcGIcKU
cGUcKEcGEcKOcGOcSAcZAcSIcZIcSUcZUcSEcZEcSOcZOcTAcDAcTIcDIc& TUcTUcDUcTEcDEcTOcDOcNAcNIcNUcNEcNO
cHAcBAcPAcHIcBIcPIcHUcBUcPUcHEcBEcPEcHOcBOcPOcMAcMIcMUcMEcMOc& YAcYAc& YUcYUc& YOcYOcRAcRIcRUcRE
cROc& WAcWAcWIcWEcWOcNcVUc& KAdKEcVAcVIcVEcVObs DOTaKATAKANA-HIRAGANA PROLONGED SOUND r
aKATAKANA ITERATION rbVOICED ITERATION rbDIGRAPH KOTO"⟩,
  ⟨0x3105, "aBOPOMOFO ! BcPcMcFcDcTcNcLcGcKcHcJcQcXcZHcCHcSHcRcZcCcScAcOcEcEHcAIcEIcAUcOUcANcEN
cANGcENGcERcIcUcIUcVcNGcGNcIHcO $ DOT ,cNN"⟩,
  ⟨0x3131, "aHANGUL ! KIYEOKcSSANGKIYEOKcKIYEOK-SIOScNIEUNcNIEUN-CIEUCcNIEUN-HIEUHcTIKEUT
cSSANGTIKEUTcRIEULcRIEUL-KIYEOKcRIEUL-MIEUMcRIEUL-PIEUPcRIEUL-SIOScRIEUL-THIEUTHcRIEUL-PHIEUPH
cRIEUL-HIEUHcMIEUMcPIEUPcSSANGPIEUPcPIEUP-SIOScSIOScSSANGSIOScIEUNGcCIEUCcSSANGCIEUCcCHIEUCH
cKHIEUKHcTHIEUTHcPHIEUPHcHIEUHcAcAEcYAcYAEcEOcEcYEOcYEcOcWAcWAEcOEcYOcUcWEOcWEcWIcYUcEUcYIcI
bFILLERb! SSANGNIEUNcNIEUN-TIKEUTcNIEUN-SIOScNIEUN-PANSIOScRIEUL-KIYEOK-SIOScRIEUL-TIKEUT
cRIEUL-PIEUP-SIOScRIEUL-PANSIOScRIEUL-YEORINHIEUHcMIEUM-PIEUPcMIEUM-SIOScMIEUM-PANSIOS
cKAPYEOUNMIEUMcPIEUP-KIYEOKcPIEUP-TIKEUTcPIEUP-SIOS-KIYEOKcPIEUP-SIOS-TIKEUTcPIEUP-CIEUC
cPIEUP-THIEUTHcKAPYEOUNPIEUPcKAPYEOUNSSANGPIEUPcSIOS-KIYEOKcSIOS-NIEUNcSIOS-TIKEUTcSIOS-PIEUP
cSIOS-CIEUCcPANSIOScSSANGIEUNGcYESIEUNGcYESIEUNG-SIOScYESIEUNG-PANSIOScKAPYEOUNPHIEUPHcSSANGHIEUH
cYEORINHIEUHcYO-YAcYO-YAEcYO-IcYU-YEOcYU-YEcYU-IcARAEAcARAEAE"⟩,
  ⟨0x3190, "aIDEOGRAPHIC ANNOTATION LINKING rcREVERSE rcONE rcTWO rc| rcFOUR rcTOP rcs rcBOTTOM r
cFIRST rcSECOND rcTHIRD rcFOURTH rcHEAVEN rcEARTH rcMAN raBOPOMOFO ! BUcZIcJIcGUcEEcENNcOOcONNcIR
cANNcINNcUNNcIMcNGGcAINNcAUNNcAMcOMcONGcINNNb= ! PdTdKdHb! GHcLHcZYb= ! Gb! GWcKWcOEcAHaCJK m T
cWGcXGcBXGcSWcHZZcHZGcHPcHZWGcSZWGcHZTcHZZPcHPWGcHZWcHZZZcNcHcScPcSPcDcHZcHGcSZcSWZcSTcSGcPDcPZ
cTNcSZZcSWGcHXWGcHZZZGcPGcQ"⟩,
  ⟨0x31f0, "aKATAKANA ! & KUdSIdSUdTOdNUdHAdHIdHUdHEdHOdMUdRAdRIdRUdREdRO
aPARENTHESIZED HANGUL KIYEOKcNIEUNcTIKEUTcRIEULcMIEUMcPIEUPcSIOScIEUNGcCIEUCcCHIEUCHcKHIEUKH
cTHIEUTHcPHIEUPHcHIEUHcKIYEOK AcNIEUN AcTIKEUT AcRIEUL AcMIEUM AcPIEUP AcSIOS AcIEUNG AcCIEUC A
cCHIEUCH AcKHIEUKH AcTHIEUTH AcPHIEUPH AcHIEUH AcCIEUC UbKOREAN CHARACTER OJEONdO HU"⟩,
  ⟨0x3220, "aPARENTHESIZED IDEOGRAPH ONEcTWOc|cFOURcFIVEcSIXcSEVENcEIGHTcNINEcTENcMOONcFIREcWATER
cWOODcMETALcEARTHcSUNcSTOCKcHAVEcSOCIETYcNAMEcSPECIALcFINANCIALcCONGRATULATIONcLABORcREPRESENT
cCALLcSTUDYcSUPERVISEcENTERPRISEcRESOURCEcALLIANCEcFESTIVALcRESTcSELFcREACH
aCIRCLED IDEOGRAPH QUESTIONcKINDERGARTENcSCHOOLcKOTObNUMBER TEN ON o SQUAREcTWENTY ON o SQUARE
cTHIRTY ON o SQUAREcFORTY ON o SQUAREcFIFTY ON o SQUAREcSIXTY ON o SQUAREcSEVENTY ON o SQUARE
cEIGHTY ON o SQUAREaPARTNERSHIP *aCIRCLED NUMBER TWENTY ONEdTWOd|dFOURdFIVEdSIXdSEVENdEIGHTdNINE
cTHIRTYcTHIRTY ONEdTWOd|dFOURdFIVEbHANGUL KIYEOKcNIEUNcTIKEUTcRIEULcMIEUMcPIEUPcSIOScIEUNGcCIEUC
cCHIEUCHcKHIEUKHcTHIEUTHcPHIEUPHcHIEUHcKIYEOK AcNIEUN AcTIKEUT AcRIEUL AcMIEUM AcPIEUP AcSIOS A
cIEUNG AcCIEUC AcCHIEUCH AcKHIEUKH AcTHIEUTH AcPHIEUPH AcHIEUH AbKOREAN CHARACTER CHAMKOdJUEUI
bHANGUL IEUNG UaKOREAN STANDARD naCIRCLED IDEOGRAPH ONEcTWOc|cFOURcFIVEcSIXcSEVENcEIGHTcNINEcTEN
cMOONcFIREcWATERcWOODcMETALcEARTHcSUNcSTOCKcHAVEcSOCIETYcNAMEcSPECIALcFINANCIALcCONGRATULATION
cLABORcSECRETcMALEcFEMALEcSUITABLEcEXCELLENTcPRINTcATTENTIONcITEMcRESTcCOPYcCORRECTcHIGHcCENTRE
cLOWc;c+cMEDICINEcRELIGIONcSTUDYcSUPERVISEcENTERPRISEcRESOURCEcALLIANCEcNIGHTbNUMBER THIRTY SIX
dSEVENdEIGHTdNINEcFORTYcFORTY ONEdTWOd|dFOURdFIVEdSIXdSEVENdEIGHTdNINEcFIFTY
aIDEOGRAPHIC TELEGRAPH n FOR JANUARYeFEBRUARYeMARCHeAPRILeMAYeJUNEeJULYeAUGUSTeSEPTEMBEReOCTOBER
eNOVEMBEReDECEMBERaSQUARE HGbERGbEVaLIMITED LIABILITY *aCIRCLED KATAKANA AcIcUcEcOcKAcKIcKUcKEcKO
cSAcSIcSUcSEcSOcTAcTIcTUcTEcTOcNAcNIcNUcNEcNOcHAcHIcHUcHEcHOcMAcMIcMUcMEcMOcYAcYUcYOcRAcRIcRUcRE
cROcWAcWIcWEcWOaSQUARE ERA NAME REIWAbAPAATObARUHUAbANPEAbAARUbININGUbINTIbUONbESUKUUDObEEKAA
bONSUbOOMUbKAIRIbKARATTObKARORIIbGARONbGANMAbGIGAbGINIIbKYURIIbGIRUDAAbKIRObKIROGURAMU
bKIROMEETORUbKIROWATTObGURAMUbGURAMUTONbKURUZEIRObKUROONEbKEESUbKORUNAbKOOPObSAIKURUbSANTIIMU
bSIRINGUbSENTIbSENTObDAASUbDESIbDORUbTONbNANObNOTTObHAITUbPAASENTObPAATUbBAARERUbPIASUTORUbPIKURU
bPIKObBIRUbHUARADDObHUIITObBUSSYERUbHURANbHEKUTAARUbPESObPENIHIbHERUTUbPENSUbPEEZIbBEETAbPOINTO
bBORUTObHONbPONDObHOORUbHOONbMAIKURObMAIRUbMAHHAbMARUKUbMANSYONbMIKURONbMIRIbMIRIBAARUbMEGA
bMEGATONbMEETORUbYAADObYAARUbYUANbRITTORUbRIRAbRUPIIbRUUBURUbREMUbRENTOGENbWATTO
aIDEOGRAPHIC TELEGRAPH n FOR HOUR ZEROfONEfTWOf|fFOURfFIVEfSIXfSEVENfEIGHTfNINEfTENfELEVENfTWELVE
fTHIRTEENfFOURTEENfFIFTEENfSIXTEENfSEVENTEENfEIGHTEENfNINETEENfTWENTYfTWENTY-ONEfTWENTY-TWO
fTWENTY-THREEfTWENTY-FOURaSQUARE HPAbDAbAUbBARbOVbPCbDMbDM SQUAREDcCUBEDbIUbERA NAME HEISEI
dSYOUWAdTAISYOUdMEIZIbCORPORATIONbPA AMPSbNAbMU AbMAbKAzbMBbGBbCALbKCALbPFbNFbMU FzbMGbKGbHZbKHZ
bMHZbGHZbTHZbMU LbMLbDLbKLbFMbNMbMU MbMMbCMbKMbMM SQUAREDbCM SQUAREDbM SQUAREDbKM SQUARED
bMM CUBEDbCM CUBEDbM CUBEDbKM CUBEDbM OVER SdS SQUAREDbPAbKPAbMPAbGPAbRADbRAD OVER SdS SQUAREDbPS
bNSbMU SbMSbPVbNVbMU VbMVbKVbMV MEGAbPWbNWbMU WbMWbKWbMW MEGAbK OHMbM OHMbAMbBQbCCzbC OVER KGbCO
bDBbGYbHAbHPbINbKKbKM %bKTbLMzbLOGbLXbMB &bMILbMOLbPHbPMbPPMbPRbSRbSVbWBbV OVER MbA OVER M
aIDEOGRAPHIC TELEGRAPH n FOR DAY ONEfTWOf|fFOURfFIVEfSIXfSEVENfEIGHTfNINEfTENfELEVENfTWELVE
fTHIRTEENfFOURTEENfFIFTEENfSIXTEENfSEVENTEENfEIGHTEENfNINETEENfTWENTYfTWENTY-ONEfTWENTY-TWO
fTWENTY-THREEfTWENTY-FOURfTWENTY-FIVEfTWENTY-SIXfTWENTY-SEVENfTWENTY-EIGHTfTWENTY-NINEfTHIRTY
fTHIRTY-ONEaSQUARE GAL"⟩,
  ⟨0x4dc0, "aHEXAGRAM FOR THE CREATIVE HEAVENdRECEPTIVE EARTHcDIFFICULTY AT THE BEGINNING
cYOUTHFUL FOLLYcWAITINGcCONFLICTcTHE ARMYcHOLDING TOGETHERc& TAMINGcTREADINGcPEACEcSTANDSTILL
cFELLOWSHIPcGREAT POSSESSIONcMODESTYcENTHUSIASMcFOLLOWINGcWORK ON THE DECAYEDcAPPROACH
cCONTEMPLATIONcBITING THROUGHcGRACEcSPLITTING APARTcRETURNcINNOCENCEcGREAT TAMINGcMOUTH CORNERS
cGREAT PREPONDERANCEcTHE ABYSMAL WATERdCLINGING FIREcINFLUENCEcDURATIONcRETREATcGREAT POWER
cPROGRESScDARKENING OF THE LIGHTcTHE FAMILYcOPPOSITIONcOBSTRUCTIONcDELIVERANCEcDECREASEcINCREASE
cBREAKTHROUGHcCOMING TO MEETcGATHERING TOGETHERcPUSHING UPWARDcOPPRESSIONcTHE WELLcREVOLUTION
cTHE CAULDRONdAROUSING THUNDERdKEEPING STILL MOUNTAINcDEVELOPMENTcTHE MARRYING MAIDENcABUNDANCE
cTHE WANDERERdGENTLE WINDdJOYOUS LAKEcDISPERSIONcLIMITATIONcINNER TRUTHc& PREPONDERANCE
cAFTER COMPLETIONcBEFORE COMPLETION"⟩]

end CallTree.Text.CharName
