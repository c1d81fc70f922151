import CallTree.Text.CharName.Packed

/-!
# Names of characters: symbols

The characters from U+2000 on and below U+2A00: general punctuation, currency signs, arrows,
mathematical and technical symbols, boxes, dingbats and Braille.
-/

namespace CallTree.Text.CharName

/-- The names of these characters. -/
def symbols : List Run := [
  ⟨0x2000, "aEN QUADaEM QUADaEN SPACEaEM SPACEaTHREE-PER-EM SPACEaFOUR-PER-EM SPACE
aSIX-PER-EM SPACEaFIGURE SPACEaPUNCTUATION SPACEaTHIN SPACEaHAIR SPACEaZERO WIDTH SPACE
cNON-JOINERcJOINERaLEFT-TO-RIGHT raRIGHT-TO-LEFT raHYPHENaNON-BREAKING HYPHENaFIGURE DASHaEN DASH
aEM DASHap BARa: ? LINEbLOW LINEa; SINGLE QUOTATION ra+ SINGLE QUOTATION r
aSINGLE LOW-9 QUOTATION rbHIGH-REVERSED-9 QUOTATION ra; : QUOTATION ra+ : QUOTATION r
a: LOW-9 QUOTATION rbHIGH-REVERSED-9 QUOTATION raDAGGERa: DAGGERaBULLETaTRIANGULAR BULLET
aONE DOT LEADERaTWO DOT LEADERap ELLIPSISaHYPHENATION POINTaLINE SEPARATORaPARAGRAPH SEPARATOR
aLEFT-TO-RIGHT EMBEDDINGaRIGHT-TO-LEFT EMBEDDINGaPOP DIRECTIONAL FORMATTING
aLEFT-TO-RIGHT OVERRIDEaRIGHT-TO-LEFT OVERRIDEaNARROW NO-BREAK SPACEaPER MILLE *bTEN v *aPRIME
a: PRIMEaTRIPLE PRIMEaREVERSED PRIMEb: PRIMEbTRIPLE PRIMEaCARET
aSINGLE LEFT-POINTING ANGLE QUOTATION rbRIGHT-POINTING ANGLE QUOTATION raREFERENCE r
a: EXCLAMATION raINTERROBANGaOVERLINEaUNDERTIEaCHARACTER TIEaCARET INSERTION POINTaASTERISM
aHYPHEN BULLETaFRACTION SLASHa; SQUARE w $ QUILLa+ SQUARE w $ QUILLa: QUESTION r
aQUESTION EXCLAMATION raEXCLAMATION QUESTION raTIRONIAN * ETaREVERSED PILCROW *ao ^ BULLET
b/ BULLETaLOW ASTERISKaREVERSED SEMICOLONaCLOSE UPaTWO ASTERISKS ALIGNED VERTICALLY
aCOMMERCIAL MINUS *aSWUNG DASHaINVERTED UNDERTIEaFLOWER PUNCTUATION ra| DOT PUNCTUATION
aQUADRUPLE PRIMEaFOUR DOT PUNCTUATIONaFIVE DOT PUNCTUATIONaTWO DOT PUNCTUATIONaFOUR DOT r
aDOTTED CROSSaTRICOLONa? FOUR DOTSaMEDIUM MATHEMATICAL SPACEaWORD JOINERaFUNCTION APPLICATION
aINVISIBLE TIMESbSEPARATORbPLUS"⟩,
  ⟨0x2066, "aLEFT-TO-RIGHT ISOLATEaRIGHT-TO-LEFT ISOLATEaFIRST STRONG ISOLATE
aPOP DIRECTIONAL ISOLATEaINHIBIT SYMMETRIC SWAPPINGaACTIVATE SYMMETRIC SWAPPING
aINHIBIT ARABIC ( SHAPINGaACTIVATE ARABIC ( SHAPINGaNATIONAL DIGIT SHAPESaNOMINAL DIGIT SHAPES
aSUPERSCRIPT ZERObLATIN & ! I"⟩,
  ⟨0x2074, "aSUPERSCRIPT FOURbFIVEbSIXbSEVENbEIGHTbNINEbPLUS *bMINUSbEQUALS *b; PARENTHESIS
b+ PARENTHESISbLATIN & ! NaSUBSCRIPT ZERObONEbTWOb|bFOURbFIVEbSIXbSEVENbEIGHTbNINEbPLUS *bMINUS
bEQUALS *b; PARENTHESISb+ PARENTHESIS"⟩,
  ⟨0x2090, "aLATIN SUBSCRIPT & ! AeEeOeXeSCHWAeHeKzzzePeSz"⟩,
  ⟨0x20a0, "aEURO-CURRENCY *aCOLON *aCRUZEIRO *aFRENCH FRANC *aLIRA *aMILL *aNAIRA *aPESETA *
aRUPEE *aWON *aNEW SHEQEL *aDONG *aEURO *aKIP *aTUGRIK *aDRACHMA *aGERMAN PENNY *aPESO *
aGUARANI *aAUSTRAL *aHRYVNIA *aCEDI *aLIVRE TOURNOIS *aSPESMILO *aTENGE *aINDIAN RUPEE *
aTURKISH LIRA *aNORDIC r *aMANAT *aRUBLE *aLARI *aBITCOIN *aSOM *"⟩,
  ⟨0x20d0, "aCOMBINING ; HARPOON ,b+ HARPOON ,bLONG ? LINE OVERLAYbSHORT ? LINE OVERLAY
bANTICLOCKWISE ) ,bCLOCKWISE ) ,b; ) ,b+ ) ,bRING OVERLAYbCLOCKWISE RING OVERLAY
bANTICLOCKWISE RING OVERLAYb| DOTS ,bFOUR DOTS ,bENCLOSING CIRCLEcSQUAREcDIAMONDcCIRCLE BACKSLASH
b; + ) ,bENCLOSING SCREENcKEYCAPcUPWARD POINTING TRIANGLEbREVERSE SOLIDUS OVERLAYb: ? m OVERLAY
bANNUITY nbTRIPLE UNDERDOTbWIDE BRIDGE ,b^ ) OVERLAYbLONG : SOLIDUS OVERLAYb/ HARPOON $ BARB u
b^ HARPOON $ BARB ub; ) <b+ ) <bASTERISK ,"⟩,
  ⟨0x2100, "aACCOUNT OFaADDRESSED TO THE SUBJECTaDOUBLE-STRUCK % CaDEGREE CELSIUSaCENTRE LINE n
aCARE OFaCADA UNAaEULER CONSTANTaSCRUPLEaDEGREE FAHRENHEITaSCRIPT & Gb% HaBLACK-LETTER % H
aDOUBLE-STRUCK % HaPLANCK CONSTANTbCONSTANT OVER TWO PIaSCRIPT % IaBLACK-LETTER % IaSCRIPT % L
b& LaL B BAR naDOUBLE-STRUCK % NaNUMERO *aSOUND RECORDING COPYRIGHTaSCRIPT % PaDOUBLE-STRUCK % Pz
aSCRIPT % RaBLACK-LETTER % RaDOUBLE-STRUCK % RaPRESCRIPTION TAKEaRESPONSEaSERVICE raTELEPHONE *
aTRADE r *aVERSICLEaDOUBLE-STRUCK % ZaOUNCE *aOHM *aINVERTED OHM *aBLACK-LETTER % Z
aTURNED GREEK & ! IOTAaKELVIN *aANGSTROM *aSCRIPT % BaBLACK-LETTER % CaESTIMATED naSCRIPT & Eb% E
zaTURNED % FaSCRIPT % Mb& OaALEF naBET naGIMEL naDALET naINFORMATION SOURCEaROTATED % Q
aFACSIMILE *aDOUBLE-STRUCK & PIcGAMMAb% GAMMAcPIbN-ARY SUMMATIONaTURNED SANS-SERIF % GdL
aREVERSED SANS-SERIF % LaTURNED SANS-SERIF % YaDOUBLE-STRUCK ITALIC % Dc& DzdIzaPROPERTY LINE
aTURNED AMPERSANDaPER *aAKTIESELSKABaTURNED & Fan FOR SAMARITAN SOURCE
aVULGAR FRACTION ONE SEVENTHdNINTHdTENTHdTHIRDcTWO THIRDScONE FIFTHcTWO FIFTHSc| FIFTHS
cFOUR FIFTHScONE SIXTHcFIVE SIXTHScONE EIGHTHc| EIGHTHScFIVE EIGHTHScSEVEN EIGHTHS
aFRACTION NUMERATOR ONEaROMAN NUMERAL ONEcTWOc|cFOURcFIVEcSIXcSEVENcEIGHTcNINEcTENcELEVENcTWELVE
cFIFTYcONE tcFIVE tcONE va& ROMAN NUMERAL ONEdTWOd|dFOURdFIVEdSIXdSEVENdEIGHTdNINEdTENdELEVEN
dTWELVEdFIFTYdONE tdFIVE tdONE vaROMAN NUMERAL ONE v C DcFIVE vcTEN vcREVERSED ONE t
aLATIN & ! REVERSED CaROMAN NUMERAL SIX LATE (cFIFTY EARLY (dvcONE t v
aVULGAR FRACTION ZERO THIRDSaTURNED DIGIT TWOc|"⟩,
  ⟨0x2190, "a^ )aUPWARDS )a/ )au )a; + )aUP DOWN )aNORTH WEST )bEAST )aSOUTH EAST )bWEST )
a^ ) $ ma/ ) $ ma^ WAVE )a/ WAVE )a^ TWO HEADED )aUPWARDS TWO HEADED )a/ TWO HEADED )
au TWO HEADED )a^ ) $ TAILa/ ) $ TAILa^ ) FROM BARaUPWARDS ) FROM BARa/ ) FROM BARau ) FROM BAR
aUP DOWN ) $ BASEa^ ) $ HOOKa/ ) $ HOOKa^ ) $ LOOPa/ ) $ LOOPa; + WAVE )c) $ mau ZIGZAG )
aUPWARDS ) $ TIP ^e/au ) $ TIP ^e/a/ ) $ CORNER uau ) $ CORNER ^aANTICLOCKWISE TOP SEMICIRCLE )
aCLOCKWISE TOP SEMICIRCLE )aNORTH WEST ) TO LONG BARa^ ) TO BAR OVER / ) TO BAR
aANTICLOCKWISE OPEN CIRCLE )aCLOCKWISE OPEN CIRCLE )a^ HARPOON $ BARB UPWARDSeu
aUPWARDS HARPOON $ BARB /e^a/ HARPOON $ BARB UPWARDSeuau HARPOON $ BARB /e^a/ ) OVER ^ )
aUPWARDS ) ^ OF u )a^ ) OVER / )bPAIRED ARROWSaUPWARDS PAIRED ARROWSa/ PAIRED ARROWS
au PAIRED ARROWSa^ HARPOON OVER / HARPOONa/ HARPOON OVER ^ HARPOONa^ : ) $ ma; + : ) $ m
a/ : ) $ ma^ : )aUPWARDS : )a/ : )au : )a; + : )aUP DOWN : )aNORTH WEST : )bEAST : )
aSOUTH EAST : )bWEST : )a^ TRIPLE )a/ TRIPLE )a^ SQUIGGLE )a/ SQUIGGLE )aUPWARDS ) $ : m
au ) $ : ma^ DASHED )aUPWARDS DASHED )a/ DASHED )au DASHED )a^ ) TO BARa/ ) TO BARa^ q )
aUPWARDS q )a/ q )au q )aUPWARDS q ) FROM BARdON PEDESTALePEDESTAL $ p BARg? BARc: )
d) ON PEDESTALa/ q ) FROM WALLaNORTH WEST ) TO CORNERaSOUTH EAST ) TO CORNERaUP DOWN q )
a+ ) $ & CIRCLEau ) ^ OF UPWARDS )a| / ARROWSa^ ) $ ? ma/ ) $ ? ma; + ) $ ? ma^ ) $ : ? m
a/ ) $ : ? ma; + ) $ : ? ma^ OPEN-HEADED )a/ OPEN-HEADED )a; + OPEN-HEADED )aFOR ALLaCOMPLEMENT
aPARTIAL DIFFERENTIALaTHERE EXISTSbDOES NOT EXISTaEMPTY SETaINCREMENTaNABLAaELEMENT OF
aNOT AN ELEMENT OFa& ELEMENT OFaCONTAINS AS MEMBERaDOES NOT CONTAIN AS MEMBER
a& CONTAINS AS MEMBERaEND OF PROOFaN-ARY PRODUCTbCOPRODUCTbSUMMATIONaMINUS *aMINUS-OR-PLUS *
aDOT PLUSaDIVISION SLASHaSET MINUSaASTERISK OPERATORaRING OPERATORaBULLET OPERATORaSQUARE ROOT
aCUBE ROOTaFOURTH ROOTaPROPORTIONAL TOaINFINITYa+ ANGLEaANGLEaMEASURED ANGLEaSPHERICAL ANGLE
aDIVIDESaDOES NOT DIVIDEaPARALLEL TOaNOT PARALLEL TOaLOGICAL >bORaINTERSECTIONaUNIONaINTEGRAL
a: INTEGRALaTRIPLE INTEGRALaCONTOUR INTEGRALaSURFACE INTEGRALaVOLUME INTEGRALaCLOCKWISE INTEGRAL
bCONTOUR INTEGRALaANTICLOCKWISE CONTOUR INTEGRALaTHEREFOREaBECAUSEaRATIOaPROPORTIONaDOT MINUS
aEXCESSaGEOMETRIC PROPORTIONaHOMOTHETICaTILDE OPERATORaREVERSED TILDEaINVERTED LAZY SaSINE WAVE
aWREATH PRODUCTaNOT TILDEaMINUS TILDEaASYMPTOTICALLY EQUAL TOaNOT ASYMPTOTICALLY EQUAL TO
aAPPROXIMATELY EQUAL TObBUT NOT ACTUALLY EQUAL TOaNEITHER APPROXIMATELY NOR ACTUALLY EQUAL TO
aALMOST EQUAL TOaNOT ALMOST EQUAL TOaALMOST EQUAL OR EQUAL TOaTRIPLE TILDEaALL EQUAL TO
aEQUIVALENT TOaGEOMETRICALLY EQUIVALENT TOaDIFFERENCE BETWEENaAPPROACHES THE LIMIT
aGEOMETRICALLY EQUAL TOaAPPROXIMATELY EQUAL TO OR THE IMAGE OFaIMAGE OF OR APPROXIMATELY EQUAL TO
aCOLON EQUALSaEQUALS COLONaRING IN EQUAL TObEQUAL TOaCORRESPONDS TOaESTIMATESaEQUIANGULAR TO
aSTAR EQUALSaDELTA EQUAL TOaEQUAL TO BY DEFINITIONaMEASURED BYaQUESTIONED EQUAL TOaNOT EQUAL TO
aIDENTICAL TOaNOT IDENTICAL TOaSTRICTLY EQUIVALENT TOaLESS-THAN OR EQUAL TO
aGREATER-THAN OR EQUAL TOaLESS-THAN OVER EQUAL TOaGREATER-THAN OVER EQUAL TO
aLESS-THAN BUT NOT EQUAL TOaGREATER-THAN BUT NOT EQUAL TOaMUCH LESS-THANbGREATER-THANaBETWEEN
aNOT EQUIVALENT TObLESS-THANbGREATER-THANaNEITHER LESS-THAN NOR EQUAL TO
bGREATER-THAN NOR EQUAL TOaLESS-THAN OR EQUIVALENT TOaGREATER-THAN OR EQUIVALENT TO
aNEITHER LESS-THAN NOR EQUIVALENT TObGREATER-THAN NOR EQUIVALENT TOaLESS-THAN OR GREATER-THAN
aGREATER-THAN OR LESS-THANaNEITHER LESS-THAN NOR GREATER-THANbGREATER-THAN NOR LESS-THANaPRECEDES
aSUCCEEDSaPRECEDES OR EQUAL TOaSUCCEEDS OR EQUAL TOaPRECEDES OR EQUIVALENT TO
aSUCCEEDS OR EQUIVALENT TOaDOES NOT PRECEDEcSUCCEEDaSUBSET OFaSUPERSET OFaNOT A SUBSET OF
cSUPERSET OFaSUBSET OF OR EQUAL TOaSUPERSET OF OR EQUAL TOaNEITHER A SUBSET OF NOR EQUAL TO
cSUPERSET OF NOR EQUAL TOaSUBSET OF $ NOT EQUAL TOaSUPERSET OF $ NOT EQUAL TOaMULTISET
aMULTISET MULTIPLICATIONbUNIONaSQUARE IMAGE OFbORIGINAL OFbIMAGE OF OR EQUAL TO
bORIGINAL OF OR EQUAL TObCAPbCUPaCIRCLED PLUSbMINUSbTIMESbDIVISION SLASHbDOT OPERATOR
bRING OPERATORbASTERISK OPERATORbEQUALSbDASHaSQUARED PLUSbMINUSbTIMESbDOT OPERATORa+ TACKa; TACK
aDOWN TACKaUP TACKaASSERTIONaMODELSaTRUEaFORCESaTRIPLE ? BAR + TURNSTILEa: ? BAR : + TURNSTILE
aDOES NOT PROVEaNOT TRUEaDOES NOT FORCEaNEGATED : ? BAR : + TURNSTILEaPRECEDES UNDER RELATION
aSUCCEEDS UNDER RELATIONaNORMAL SUBGROUP OFaCONTAINS AS NORMAL SUBGROUP
aNORMAL SUBGROUP OF OR EQUAL TOaCONTAINS AS NORMAL SUBGROUP OR EQUAL TOaORIGINAL OFaIMAGE OF
aMULTIMAPaHERMITIAN CONJUGATE MATRIXaINTERCALATEaXORaNANDaNORa+ ANGLE $ ARCbTRIANGLE
aN-ARY LOGICAL >cORbINTERSECTIONbUNIONaDIAMOND OPERATORaDOT OPERATORaSTAR OPERATORaDIVISION TIMES
aBOWTIEa; NORMAL FACTOR SEMIDIRECT PRODUCTa+ NORMAL FACTOR SEMIDIRECT PRODUCT
a; SEMIDIRECT PRODUCTa+ SEMIDIRECT PRODUCTaREVERSED TILDE EQUALSaCURLY LOGICAL ORc>a: SUBSET
bSUPERSETbINTERSECTIONbUNIONaPITCHFORKaEQUAL > PARALLEL TOaLESS-THAN $ DOTaGREATER-THAN $ DOT
aVERY MUCH LESS-THANcGREATER-THANaLESS-THAN EQUAL TO OR GREATER-THAN
aGREATER-THAN EQUAL TO OR LESS-THANaEQUAL TO OR LESS-THANdGREATER-THANdPRECEDESdSUCCEEDS
aDOES NOT PRECEDE OR EQUALcSUCCEED OR EQUALaNOT SQUARE IMAGE OF OR EQUAL TO
cORIGINAL OF OR EQUAL TOaSQUARE IMAGE OF OR NOT EQUAL TObORIGINAL OF OR NOT EQUAL TO
aLESS-THAN BUT NOT EQUIVALENT TOaGREATER-THAN BUT NOT EQUIVALENT TO
aPRECEDES BUT NOT EQUIVALENT TOaSUCCEEDS BUT NOT EQUIVALENT TOaNOT NORMAL SUBGROUP OF
aDOES NOT CONTAIN AS NORMAL SUBGROUPaNOT NORMAL SUBGROUP OF OR EQUAL TO
aDOES NOT CONTAIN AS NORMAL SUBGROUP OR EQUALa? ELLIPSISaMIDLINE p ELLIPSIS
aUP + DIAGONAL ELLIPSISaDOWN + DIAGONAL ELLIPSISaELEMENT OF $ LONG p md? BAR AT END OF p m
a& ELEMENT OF $ ? BAR AT END OF p maELEMENT OF $ DOT ,dOVERBARa& ELEMENT OF $ OVERBAR
aELEMENT OF $ UNDERBARdTWO p STROKESaCONTAINS $ LONG p mc? BAR AT END OF p m
a& CONTAINS $ ? BAR AT END OF p maCONTAINS $ OVERBARa& CONTAINS $ OVERBAR
aZ NOTATION BAG MEMBERSHIPaDIAMETER *aELECTRIC )aHOUSEaUP ARROWHEADaDOWN ARROWHEADaPROJECTIVE
aPERSPECTIVEaWAVY LINEa; CEILINGa+ CEILINGa; FLOORa+ FLOORaBOTTOM + CROPb; CROPaTOP + CROPb; CROP
aREVERSED NOT *aSQUARE LOZENGEaARCaSEGMENTaSECTORaTELEPHONE RECORDERaPOSITION INDICATOR
aVIEWDATA SQUAREaPLACE OF INTEREST *aTURNED NOT *aWATCHaHOURGLASSaTOP ; CORNERb+ CORNER
aBOTTOM ; CORNERb+ CORNERaTOP HALF INTEGRALaBOTTOM HALF INTEGRALaFROWNaSMILE
aUP ARROWHEAD BETWEEN TWO p BARSaOPTION KEYaERASE TO THE +aX IN A RECTANGLE BOXaKEYBOARD
aLEFT-POINTING ANGLE waRIGHT-POINTING ANGLE waERASE TO THE ;aBENZENE RINGaCYLINDRICITY
aALL AROUND-PROFILEaSYMMETRYaTOTAL RUNOUTaDIMENSION ORIGINaCONICAL TAPERaSLOPEaCOUNTERBORE
aCOUNTERSINKaAPL FUNCTIONAL n I-BEAMdSQUISH QUADdQUAD EQUALeDIVIDEeDIAMONDeJOTeCIRCLE
dCIRCLE STILEeJOTdSLASH BARdBACKSLASH BARdQUAD SLASHeBACKSLASHeLESS-THANeGREATER-THANd^ VANE
d/ VANEdQUAD ^ )e/ )dCIRCLE BACKSLASHdDOWN TACK UNDERBARdDELTA STILEdQUAD DOWN CARETeDELTA
dDOWN TACK JOTdUPWARDS VANEdQUAD UPWARDS )dUP TACK OVERBARdDEL STILEdQUAD UP CARETeDEL
dUP TACK JOTdu VANEdQUAD u )dQUOTE UNDERBARdDELTA UNDERBARdDIAMOND UNDERBARdJOT UNDERBAR
dCIRCLE UNDERBARdUP SHOE JOTdQUOTE QUADdCIRCLE STARdQUAD COLONdUP TACK DIAERESISdDEL DIAERESIS
dSTAR DIAERESISdJOT DIAERESISdCIRCLE DIAERESISdDOWN SHOE STILEd; SHOE STILEdTILDE DIAERESIS
dGREATER-THAN DIAERESISdCOMMA BARdDEL TILDEdZILDEdSTILE TILDEdSEMICOLON UNDERBARdQUAD NOT EQUAL
eQUESTIONdDOWN CARET TILDEdUP CARET TILDEdIOTAdRHOdOMEGAdALPHA UNDERBARdEPSILON UNDERBAR
dIOTA UNDERBARdOMEGA UNDERBARdALPHAaNOT CHECK ra+ ANGLE $ u ZIGZAG )aSHOULDERED OPEN BOXaBELL n
a? LINE $ s DOTaINSERTION naCONTINUOUS UNDERLINE naDISCONTINUOUS UNDERLINE naEMPHASIS n
aCOMPOSITION naq SQUARE $ CENTRE ? LINEaENTER naALTERNATIVE KEY naHELM naCIRCLED p BAR $ NOTCH
bTRIANGLE DOWNaBROKEN CIRCLE $ NORTHWEST )aUNDO naMONOSTABLE naHYSTERESIS n
aOPEN-CIRCUIT-OUTPUT H-TYPE nbL-TYPE naPASSIVE-PULL-DOWN-OUTPUT naPASSIVE-PULL-UP-OUTPUT n
aDIRECT CURRENT n ( TWOaSOFTWARE-FUNCTION naAPL FUNCTIONAL n QUADaDECIMAL SEPARATOR KEY n
aPREVIOUS PAGEaNEXT PAGEaPRINT SCREEN naCLEAR SCREEN na; PARENTHESIS UPPER HOOKcEXTENSION
cLOWER HOOKa+ PARENTHESIS UPPER HOOKcEXTENSIONcLOWER HOOKa; SQUARE w UPPER CORNERdEXTENSION
dLOWER CORNERa+ SQUARE w UPPER CORNERdEXTENSIONdLOWER CORNERa; CURLY w UPPER HOOKds PIECE
dLOWER HOOKaCURLY w EXTENSIONa+ CURLY w UPPER HOOKds PIECEdLOWER HOOKaINTEGRAL EXTENSION
ap LINE EXTENSIONaUPPER ; OR LOWER + CURLY w SECTIONb+ OR LOWER ; CURLY w SECTIONaSUMMATION TOP
bBOTTOMaTOP SQUARE waBOTTOM SQUARE wcw OVER TOP SQUARE waRADICAL n BOTTOMa; ? BOX LINE
a+ ? BOX LINEap SCAN LINE-1cLINE-3cLINE-7cLINE-9aDENTISTRY n LIGHT ? > TOP +fBOTTOM +e$ CIRCLE
dDOWN > p $ CIRCLEdUP > p $ CIRCLEd? $ TRIANGLEdDOWN > p $ TRIANGLEdUP > p $ TRIANGLEd? > WAVE
dDOWN > p $ WAVEdUP > p $ WAVEdDOWN > pdUP > pd? > TOP ;fBOTTOM ;aSQUARE FOOTaRETURN naEJECT n
a? LINE EXTENSIONaMETRICAL BREVEbLONG OVER SHORTbSHORT OVER LONGbLONG OVER TWO SHORTS
bTWO SHORTS OVER LONGdJOINEDbTRISEMEbTETRASEMEbPENTASEMEaEARTH GROUNDaFUSEaTOP PARENTHESIS
aBOTTOM PARENTHESISaTOP CURLY waBOTTOM CURLY waTOP TORTOISE SHELL waBOTTOM TORTOISE SHELL w
aq TRAPEZIUMaBENZENE RING $ CIRCLEaSTRAIGHTNESSaFLATNESSaAC CURRENTaELECTRICAL INTERSECTION
aDECIMAL EXPONENT nao RIGHT-POINTING : TRIANGLEbLEFT-POINTING : TRIANGLEbUP-POINTING : TRIANGLE
bDOWN-POINTING : TRIANGLEbRIGHT-POINTING : TRIANGLE $ ? BARbLEFT-POINTING : TRIANGLE $ ? BAR
bRIGHT-POINTING TRIANGLE $ : ? BARaALARM CLOCKaSTOPWATCHaTIMER CLOCKaHOURGLASS $ FLOWING SAND
ao MEDIUM LEFT-POINTING TRIANGLEcRIGHT-POINTING TRIANGLEcUP-POINTING TRIANGLE
cDOWN-POINTING TRIANGLEa: ? BARao SQUARE FOR STOPbCIRCLE FOR RECORDaPOWER nbON-OFF nbON nbSLEEP n
aOBSERVER EYE nan FOR NULLcSTART OF HEADINGeTEXTcEND OF TEXTeTRANSMISSIONcENQUIRYcACKNOWLEDGE
cBELLcBACKSPACEcp TABULATIONcLINE FEEDc? TABULATIONc( FEEDcCARRIAGE RETURNcSHIFT OUTdIN
cDATA LINK ESCAPEcDEVICE CONTROL ONEeTWOe|eFOURcNEGATIVE ACKNOWLEDGEcSYNCHRONOUS IDLE
cEND OF TRANSMISSION BLOCKcCANCELcEND OF MEDIUMcSUBSTITUTEcESCAPEcFILE SEPARATORcGROUP SEPARATOR
cRECORD SEPARATORcUNIT SEPARATORcSPACEcDELETEaBLANK naOPEN BOXan FOR NEWLINEcDELETE ( TWO
cSUBSTITUTE ( TWO"⟩,
  ⟨0x2440, "aOCR HOOKbCHAIRbFORKbINVERTED FORKbBELT BUCKLEbBOW TIEbBRANCH BANK IDENTIFICATION
bAMOUNT OF CHECKbDASHbCUSTOMER ACCOUNT NUMBERb: BACKSLASH"⟩,
  ⟨0x2460, "aCIRCLED DIGIT ONEcTWOc|cFOURcFIVEcSIXcSEVENcEIGHTcNINEbNUMBER TENcELEVENcTWELVE
cTHIRTEENcFOURTEENcFIFTEENcSIXTEENcSEVENTEENcEIGHTEENcNINETEENcTWENTYaPARENTHESIZED DIGIT ONEcTWO
c|cFOURcFIVEcSIXcSEVENcEIGHTcNINEbNUMBER TENcELEVENcTWELVEcTHIRTEENcFOURTEENcFIFTEENcSIXTEEN
cSEVENTEENcEIGHTEENcNINETEENcTWENTYaDIGIT ONE FULL STOPbTWO FULL STOPb| FULL STOPbFOUR FULL STOP
bFIVE FULL STOPbSIX FULL STOPbSEVEN FULL STOPbEIGHT FULL STOPbNINE FULL STOPaNUMBER TEN FULL STOP
bELEVEN FULL STOPbTWELVE FULL STOPbTHIRTEEN FULL STOPbFOURTEEN FULL STOPbFIFTEEN FULL STOP
bSIXTEEN FULL STOPbSEVENTEEN FULL STOPbEIGHTEEN FULL STOPbNINETEEN FULL STOPbTWENTY FULL STOP
aPARENTHESIZED LATIN & ! AzzzzzzzzzzzzzzzzzzzzzzzzzaCIRCLED LATIN % ! Azzzzzzzzzzzzzzzzzzzzzzzzz
c& ! AzzzzzzzzzzzzzzzzzzzzzzzzzbDIGIT ZEROaNEGATIVE CIRCLED NUMBER ELEVENdTWELVEdTHIRTEEN
dFOURTEENdFIFTEENdSIXTEENdSEVENTEENdEIGHTEENdNINETEENdTWENTYa: CIRCLED DIGIT ONEdTWOd|dFOURdFIVE
dSIXdSEVENdEIGHTdNINEcNUMBER TENaNEGATIVE CIRCLED DIGIT ZEROaBOX DRAWINGS LIGHT pcy pcLIGHT ?cy ?
cLIGHT TRIPLE DASH pcy TRIPLE DASH pcLIGHT TRIPLE DASH ?cy TRIPLE DASH ?cLIGHT QUADRUPLE DASH p
cy QUADRUPLE DASH pcLIGHT QUADRUPLE DASH ?cy QUADRUPLE DASH ?cLIGHT DOWN > +cDOWN LIGHT > + y
dy > + LIGHTcy DOWN > +cLIGHT DOWN > ;cDOWN LIGHT > ; ydy > ; LIGHTcy DOWN > ;cLIGHT UP > +
cUP LIGHT > + ydy > + LIGHTcy UP > +cLIGHT UP > ;cUP LIGHT > ; ydy > ; LIGHTcy UP > ;cLIGHT ? > +
c? LIGHT > + ycUP y > + DOWN LIGHTcDOWN y > + UP LIGHTc? y > + LIGHTcDOWN LIGHT > + UP y
cUP LIGHT > + DOWN ycy ? > +cLIGHT ? > ;c? LIGHT > ; ycUP y > ; DOWN LIGHTcDOWN y > ; UP LIGHT
c? y > ; LIGHTcDOWN LIGHT > ; UP ycUP LIGHT > ; DOWN ycy ? > ;cLIGHT DOWN > pc; y > + DOWN LIGHT
c+ y > ; DOWN LIGHTcDOWN LIGHT > p ydy > p LIGHTc+ LIGHT > ; DOWN yc; LIGHT > + DOWN ycy DOWN > p
cLIGHT UP > pc; y > + UP LIGHTc+ y > ; UP LIGHTcUP LIGHT > p ydy > p LIGHTc+ LIGHT > ; UP y
c; LIGHT > + UP ycy UP > pcLIGHT ? > pc; y > + ? LIGHTc+ y > ; ? LIGHTc? LIGHT > p y
cUP y > DOWN p LIGHTcDOWN y > UP p LIGHTc? y > p LIGHTc; UP y > + DOWN LIGHT
c+ UP y > ; DOWN LIGHTc; DOWN y > + UP LIGHTc+ DOWN y > ; UP LIGHTcDOWN LIGHT > UP p y
cUP LIGHT > DOWN p yc+ LIGHT > ; ? yc; LIGHT > + ? ycy ? > pcLIGHT : DASH pcy : DASH p
cLIGHT : DASH ?cy : DASH ?c: pd?cDOWN SINGLE > + :d: > + SINGLEc: DOWN > +cDOWN SINGLE > ; :
d: > ; SINGLEc: DOWN > ;cUP SINGLE > + :d: > + SINGLEc: UP > +cUP SINGLE > ; :d: > ; SINGLE
c: UP > ;c? SINGLE > + :d: > + SINGLEc: ? > +c? SINGLE > ; :d: > ; SINGLEc: ? > ;
cDOWN SINGLE > p :d: > p SINGLEc: DOWN > pcUP SINGLE > p :d: > p SINGLEc: UP > pc? SINGLE > p :
d: > p SINGLEc: ? > pcLIGHT ARC DOWN > +g;eUP > ;g+dDIAGONAL UPPER + TO LOWER ;f; TO LOWER +
eCROSSd;dUPd+dDOWNcy ;dUPd+dDOWNcLIGHT ; > y +dUP > y DOWNcy ; > LIGHT +dUP > LIGHT DOWN
aUPPER HALF BLOCKaLOWER ONE EIGHTH BLOCKcQUARTER BLOCKb| EIGHTHS BLOCKbHALF BLOCK
bFIVE EIGHTHS BLOCKb| QUARTERS BLOCKbSEVEN EIGHTHS BLOCKaFULL BLOCKa; SEVEN EIGHTHS BLOCK
b| QUARTERS BLOCKbFIVE EIGHTHS BLOCKbHALF BLOCKb| EIGHTHS BLOCKbONE QUARTER BLOCKcEIGHTH BLOCK
a+ HALF BLOCKaLIGHT SHADEaMEDIUM SHADEaDARK SHADEaUPPER ONE EIGHTH BLOCKa+ ONE EIGHTH BLOCK
aQUADRANT LOWER ;c+bUPPER ;c; > LOWER ; > LOWER +f+eUPPER + > LOWER ;i+c+c+ > LOWER ;f; > LOWER +
ao SQUAREaq SQUAREbSQUARE $ ROUNDED CORNERScCONTAINING o & SQUAREaSQUARE $ p FILLc? FILL
cORTHOGONAL CROSSHATCH FILLcUPPER ; TO LOWER + FILLd+ TO LOWER ; FILLcDIAGONAL CROSSHATCH FILL
ao & SQUAREaq & SQUAREao RECTANGLEaq RECTANGLEao ? RECTANGLEaq ? RECTANGLEao PARALLELOGRAM
aq PARALLELOGRAMao UP-POINTING TRIANGLEaq UP-POINTING TRIANGLEao UP-POINTING & TRIANGLE
aq UP-POINTING & TRIANGLEao RIGHT-POINTING TRIANGLEaq RIGHT-POINTING TRIANGLE
ao RIGHT-POINTING & TRIANGLEaq RIGHT-POINTING & TRIANGLEao RIGHT-POINTING POINTER
aq RIGHT-POINTING POINTERao DOWN-POINTING TRIANGLEaq DOWN-POINTING TRIANGLE
ao DOWN-POINTING & TRIANGLEaq DOWN-POINTING & TRIANGLEao LEFT-POINTING TRIANGLE
aq LEFT-POINTING TRIANGLEao LEFT-POINTING & TRIANGLEaq LEFT-POINTING & TRIANGLE
ao LEFT-POINTING POINTERaq LEFT-POINTING POINTERao DIAMONDaq DIAMOND
bDIAMOND CONTAINING o & DIAMONDaFISHEYEaLOZENGEaq CIRCLEaDOTTED CIRCLEaCIRCLE $ ? FILLaBULLSEYE
ao CIRCLEaCIRCLE $ ; HALF oc+ HALF ocLOWER HALF ocUPPER HALF od+ QUADRANT o
cALL BUT UPPER ; QUADRANT oa; HALF o CIRCLEa+ HALF o CIRCLEaINVERSE BULLETbq CIRCLE
aUPPER HALF INVERSE q CIRCLEaLOWER HALF INVERSE q CIRCLEaUPPER ; QUADRANT CIRCULAR ARC
b+ QUADRANT CIRCULAR ARCaLOWER + QUADRANT CIRCULAR ARCb; QUADRANT CIRCULAR ARCaUPPER HALF CIRCLE
aLOWER HALF CIRCLEao LOWER + TRIANGLEc; TRIANGLEbUPPER ; TRIANGLEc+ TRIANGLEaq BULLET
aSQUARE $ ; HALF oc+ HALF ocUPPER ; DIAGONAL HALF ocLOWER + DIAGONAL HALF o
aq SQUARE $ ? BISECTING LINEbUP-POINTING TRIANGLE $ DOTaUP-POINTING TRIANGLE $ ; HALF od+ HALF o
aLARGE CIRCLEaq SQUARE $ UPPER ; QUADRANTdLOWER ; QUADRANTe+ QUADRANTdUPPER + QUADRANT
bCIRCLE $ UPPER ; QUADRANTdLOWER ; QUADRANTe+ QUADRANTdUPPER + QUADRANTaUPPER ; TRIANGLE
b+ TRIANGLEaLOWER ; TRIANGLEaq MEDIUM SQUAREao MEDIUM SQUAREaq MEDIUM & SQUAREao MEDIUM & SQUARE
aLOWER + TRIANGLEao SUN $ RAYSaCLOUDaUMBRELLAaSNOWMANaCOMETao STARaq STARaLIGHTNINGaTHUNDERSTORM
aSUNaASCENDING NODEaDESCENDING NODEaCONJUNCTIONaOPPOSITIONao TELEPHONEaq TELEPHONEaBALLOT BOX
bBOX $ CHECKdXaSALTIREaUMBRELLA $ RAIN DROPSaHOT BEVERAGEaq SHOGI PIECEao SHOGI PIECEaSHAMROCK
aREVERSED ROTATED FLORAL HEART BULLETao ; POINTING INDEXb+ POINTING INDEXaq ; POINTING INDEX
bUP POINTING INDEXb+ POINTING INDEXbDOWN POINTING INDEXaSKULL > CROSSBONESaCAUTION *
aRADIOACTIVE *aBIOHAZARD *aCADUCEUSaANKHaORTHODOX CROSSaCHI RHOaCROSS OF LORRAINEcJERUSALEM
aSTAR > CRESCENTaFARSI naADI SHAKTIaHAMMER > SICKLEaPEACE naYIN YANGaTRIGRAM FOR HEAVENcLAKEcFIRE
cTHUNDERcWINDcWATERcMOUNTAINcEARTHaWHEEL OF DHARMAaq FROWNING FACEbSMILING FACEao SMILING FACE
aq SUN $ RAYSaFIRST QUARTER MOONaLAST QUARTER MOONaMERCURYaFEMALE *aEARTHaMALE *aJUPITERaSATURN
aURANUSaNEPTUNEaPLUTOaARIESaTAURUSaGEMINIaCANCERaLEOaVIRGOaLIBRAaSCORPIUSaSAGITTARIUSaCAPRICORN
aAQUARIUSaPISCESaq CHESS KINGcQUEENcROOKcBISHOPcKNIGHTcPAWNao CHESS KINGcQUEENcROOKcBISHOPcKNIGHT
cPAWNbSPADE SUITaq HEART SUITbDIAMOND SUITao CLUB SUITaq SPADE SUITao HEART SUITbDIAMOND SUIT
aq CLUB SUITaHOT SPRINGSaQUARTER NOTEaEIGHTH NOTEaBEAMED EIGHTH NOTESbSIXTEENTH NOTES
aMUSIC FLAT *bNATURAL *bSHARP *aWEST SYRIAC CROSSaEAST SYRIAC CROSSaUNIVERSAL RECYCLING n
aRECYCLING n FOR TYPE-1 PLASTICSdTYPE-2 PLASTICSdTYPE-3 PLASTICSdTYPE-4 PLASTICSdTYPE-5 PLASTICS
dTYPE-6 PLASTICSdTYPE-7 PLASTICSdGENERIC MATERIALSao UNIVERSAL RECYCLING naRECYCLED PAPER n
aPARTIALLY-RECYCLED PAPER naPERMANENT PAPER *aWHEELCHAIR naDIE FACE-1zzzzzaq CIRCLE $ DOT +
dTWO DOTSao CIRCLE $ q DOT +dTWO q DOTSaMONOGRAM FOR YANGcYINaDIGRAM FOR GREATER YANGcLESSER YIN
dYANGcGREATER YINaq FLAGao FLAGaHAMMER > PICKaANCHORaCROSSED SWORDSaSTAFF OF AESCULAPIUSaSCALES
aALEMBICaFLOWERaGEARaSTAFF OF HERMESaATOM naFLEUR-DE-LISaOUTLINED q STARa| LINES CONVERGING +d;
aWARNING *aHIGH VOLTAGE *aDOUBLED FEMALE *bMALE *aINTERLOCKED FEMALE > MALE *aMALE > FEMALE *
b$ m *d> MALE > FEMALE *a? MALE $ m *ap MALE $ m *aMEDIUM q CIRCLEbo CIRCLEb& q CIRCLEaMARRIAGE n
aDIVORCE naUNMARRIED PARTNERSHIP naCOFFINaFUNERAL URNaNEUTERaCERESaPALLASaJUNOaVESTAaCHIRON
ao MOON LILITHaSEXTILEaSEMISEXTILEaQUINCUNXaSESQUIQUADRATEaSOCCER BALLaBASEBALLaSQUARED KEY
aq DRAUGHTS MANcKINGao DRAUGHTS MANcKINGaSNOWMAN WITHOUT SNOWaSUN BEHIND CLOUDaRAINao SNOWMAN
aTHUNDER CLOUD > RAINaTURNED q SHOGI PIECEbo SHOGI PIECEaq DIAMOND IN SQUAREaCROSSING LANES
aDISABLED CARaOPHIUCHUSaPICKaCAR SLIDINGaHELMET $ q CROSSaCIRCLED CROSSING LANESaCHAINSaNO ENTRY
aALTERNATE ONE-WAY ; WAY TRAFFICao TWO-WAY ; WAY TRAFFICaq TWO-WAY ; WAY TRAFFICao ; LANE MERGE
aq ; LANE MERGEaDRIVE SLOW *ay q DOWN-POINTING TRIANGLEa; CLOSED ENTRYaSQUARED SALTIRE
aFALLING DIAGONAL IN q CIRCLE IN o SQUAREao TRUCKaRESTRICTED ; ENTRY-1zaASTRONOMICAL n FOR URANUS
ay CIRCLE $ m > TWO DOTS ,aPENTAGRAMaRIGHT-HANDED INTERLACED PENTAGRAM
aLEFT-HANDED INTERLACED PENTAGRAMaINVERTED PENTAGRAMao CROSS ON SHIELDaSHINTO SHRINEaCHURCH
aCASTLEaHISTORIC SITEaGEAR WITHOUT HUBb$ HANDLESaMAP n FOR LIGHTHOUSEaMOUNTAINaUMBRELLA ON GROUND
aFOUNTAINaFLAG IN HOLEaFERRYaSAILBOATaSQUARE FOUR CORNERSaSKIERaICE SKATEaPERSON $ BALLaTENT
aJAPANESE BANK naHEADSTONE GRAVEYARD naFUEL PUMPaCUP ON o SQUAREaq FLAG $ p s o STRIPE
ao SAFETY SCISSORSaUPPER BLADE SCISSORSao SCISSORSaLOWER BLADE SCISSORSaq SCISSORSby CHECK r
aTELEPHONE LOCATION *aTAPE DRIVEaAIRPLANEaENVELOPEaRAISED FISTbHANDaVICTORY HANDaWRITING HAND
aLOWER + PENCILaPENCILaUPPER + PENCILaq NIBao NIBaCHECK ray CHECK raMULTIPLICATION X
ay MULTIPLICATION XaBALLOT Xay BALLOT XaOUTLINED GREEK CROSSay GREEK CROSSaOPEN CENTRE CROSS
ay OPEN CENTRE CROSSaLATIN CROSSaSHADOWED q LATIN CROSSaOUTLINED LATIN CROSSaMALTESE CROSS
aSTAR OF DAVIDaFOUR TEARDROP-SPOKED ASTERISKbBALLOON-SPOKED ASTERISK
ay FOUR BALLOON-SPOKED ASTERISKaFOUR CLUB-SPOKED ASTERISKao FOUR POINTED STARaq FOUR POINTED STAR
aSPARKLESaSTRESS OUTLINED q STARaCIRCLED q STARaOPEN CENTRE o STARao CENTRE q STAR
aOUTLINED o STARay OUTLINED o STARaPINWHEEL STARaSHADOWED q STARay ASTERISKaOPEN CENTRE ASTERISK
aEIGHT SPOKED ASTERISKbPOINTED o STARcPINWHEEL STARaSIX POINTED o STAR
aEIGHT POINTED RECTILINEAR o STARay EIGHT POINTED RECTILINEAR o STARaTWELVE POINTED o STAR
aSIXTEEN POINTED ASTERISKaTEARDROP-SPOKED ASTERISKaOPEN CENTRE TEARDROP-SPOKED ASTERISK
ay TEARDROP-SPOKED ASTERISKaSIX PETALLED o > q FLORETTEao FLORETTEaq FLORETTE
aEIGHT PETALLED OUTLINED o FLORETTEaCIRCLED OPEN CENTRE EIGHT POINTED STAR
ay TEARDROP-SPOKED PINWHEEL ASTERISKaSNOWFLAKEaTIGHT TRIFOLIATE SNOWFLAKEay CHEVRON SNOWFLAKE
aSPARKLEay SPARKLEaBALLOON-SPOKED ASTERISKaEIGHT TEARDROP-SPOKED PROPELLER ASTERISK
ay EIGHT TEARDROP-SPOKED PROPELLER ASTERISKaCROSS raSHADOWED q CIRCLEaNEGATIVE SQUARED CROSS r
aLOWER + DROP-SHADOWED q SQUAREaUPPER + DROP-SHADOWED q SQUAREaLOWER + SHADOWED q SQUARE
aUPPER + SHADOWED q SQUAREao QUESTION r ORNAMENTaq QUESTION r ORNAMENTbEXCLAMATION r ORNAMENT
ao DIAMOND MINUS q Xay EXCLAMATION r naLIGHT ? BARaMEDIUM ? BARay ? BAR
bSINGLE TURNED COMMA QUOTATION r ORNAMENTcCOMMA QUOTATION r ORNAMENT
b: TURNED COMMA QUOTATION r ORNAMENTcCOMMA QUOTATION r ORNAMENT
bLOW SINGLE COMMA QUOTATION r ORNAMENTc: COMMA QUOTATION r ORNAMENT
aCURVED STEM PARAGRAPH * ORNAMENTay EXCLAMATION r ORNAMENTbHEART EXCLAMATION r ORNAMENTbo HEART
aROTATED y o HEART BULLETaFLORAL HEARTaROTATED FLORAL HEART BULLETaMEDIUM ; PARENTHESIS ORNAMENT
b+ PARENTHESIS ORNAMENTbFLATTENED ; PARENTHESIS ORNAMENTc+ PARENTHESIS ORNAMENT
bLEFT-POINTING ANGLE w ORNAMENTbRIGHT-POINTING ANGLE w ORNAMENT
ay LEFT-POINTING ANGLE QUOTATION r ORNAMENTbRIGHT-POINTING ANGLE QUOTATION r ORNAMENT
bLEFT-POINTING ANGLE w ORNAMENTbRIGHT-POINTING ANGLE w ORNAMENTaLIGHT ; TORTOISE SHELL w ORNAMENT
b+ TORTOISE SHELL w ORNAMENTaMEDIUM ; CURLY w ORNAMENTb+ CURLY w ORNAMENT
aDINGBAT NEGATIVE CIRCLED DIGIT ONEeTWOe|eFOUReFIVEeSIXeSEVENeEIGHTeNINEdNUMBER TEN
bCIRCLED SANS-SERIF DIGIT ONEeTWOe|eFOUReFIVEeSIXeSEVENeEIGHTeNINEdNUMBER TEN
bNEGATIVE CIRCLED SANS-SERIF DIGIT ONEfTWOf|fFOURfFIVEfSIXfSEVENfEIGHTfNINEeNUMBER TEN
ay WIDE-HEADED / )bPLUS *bMINUS *bDIVISION *bSOUTH EAST )b/ )bNORTH EAST )aDRAFTING POINT / )
ay ROUND-TIPPED / )a~ / )ay ~ / )aDASHED ~ / )ay DASHED ~ / )ao / )
aTHREE-D TOP-LIGHTED / ARROWHEADbBOTTOM-LIGHTED / ARROWHEADao / ARROWHEADay o CURVED u > / )
dUPWARDS > / )aSQUAT o / )ay CONCAVE-POINTED o / )aRIGHT-SHADED q / )aLEFT-SHADED q / )
aBACK-TILTED SHADOWED q / )aFRONT-TILTED SHADOWED q / )ay LOWER RIGHT-SHADOWED q / )
bUPPER RIGHT-SHADOWED q / )aNOTCHED LOWER RIGHT-SHADOWED q / )aCURLY LOOP
aNOTCHED UPPER RIGHT-SHADOWED q / )aCIRCLED y q / )aWHITE-FEATHERED / )
aBLACK-FEATHERED SOUTH EAST )b/ )bNORTH EAST )ay BLACK-FEATHERED SOUTH EAST )c/ )cNORTH EAST )
aTEARDROP-BARBED / )ay TEARDROP-SHANKED / )aWEDGE-TAILED / )ay WEDGE-TAILED / )aOPEN-OUTLINED / )
a: CURLY LOOPa| DIMENSIONAL ANGLEaq TRIANGLE CONTAINING & q TRIANGLEaPERPENDICULARaOPEN SUBSET
bSUPERSETa; S-SHAPED BAG DELIMITERa+ S-SHAPED BAG DELIMITERaOR $ DOT INSIDE
aREVERSE SOLIDUS PRECEDING SUBSETaSUPERSET PRECEDING SOLIDUSa? BAR $ p m
aMATHEMATICAL RISING DIAGONALaLONG DIVISIONaMATHEMATICAL FALLING DIAGONALaSQUARED LOGICAL >cOR
aq DIAMOND $ CENTRED DOTa> $ DOTaELEMENT OF OPENING UPWARDSaLOWER + CORNER $ DOT
aUPPER ; CORNER $ DOTa; OUTER JOINa+ OUTER JOINaFULL OUTER JOINaLARGE UP TACKbDOWN TACK
a; > + : TURNSTILEdTACKbMULTIMAPaLONG + TACKb; TACKaUP TACK $ CIRCLE ,aLOZENGE DIVIDED BY p RULE
aq CONCAVE-SIDED DIAMONDcDIAMOND $ ^ TICKe/ TICKbSQUARE $ ^ TICKd/ TICKaMATHEMATICAL ; q SQUARE w
b+ q SQUARE wb; ANGLE wb+ ANGLE wb; : ANGLE wb+ : ANGLE wb; q TORTOISE SHELL w
b+ q TORTOISE SHELL wb; FLATTENED PARENTHESISb+ FLATTENED PARENTHESISaUPWARDS QUADRUPLE )
au QUADRUPLE )aANTICLOCKWISE GAPPED CIRCLE )aCLOCKWISE GAPPED CIRCLE )a+ ) $ CIRCLED PLUS
aLONG ^ )b/ )b; + )b^ : )b/ : )b; + : )b^ ) FROM BARb/ ) FROM BARb^ : ) FROM BARb/ : ) FROM BAR
cSQUIGGLE )aBRAILLE PATTERN BLANKcDOTS-1zcDOTS-12cDOTS-3cDOTS-13cDOTS-23cDOTS-123cDOTS-4cDOTS-14
cDOTS-24cDOTS-124cDOTS-34cDOTS-134cDOTS-234cDOTS-1234cDOTS-5cDOTS-15cDOTS-25cDOTS-125cDOTS-35
cDOTS-135cDOTS-235cDOTS-1235cDOTS-45cDOTS-145cDOTS-245cDOTS-1245cDOTS-345cDOTS-1345cDOTS-2345
cDOTS-12345cDOTS-6cDOTS-16cDOTS-26cDOTS-126cDOTS-36cDOTS-136cDOTS-236cDOTS-1236cDOTS-46cDOTS-146
cDOTS-246cDOTS-1246cDOTS-346cDOTS-1346cDOTS-2346cDOTS-12346cDOTS-56cDOTS-156cDOTS-256cDOTS-1256
cDOTS-356cDOTS-1356cDOTS-2356cDOTS-12356cDOTS-456cDOTS-1456cDOTS-2456cDOTS-12456cDOTS-3456
cDOTS-13456cDOTS-23456cDOTS-123456cDOTS-7cDOTS-17cDOTS-27cDOTS-127cDOTS-37cDOTS-137cDOTS-237
cDOTS-1237cDOTS-47cDOTS-147cDOTS-247cDOTS-1247cDOTS-347cDOTS-1347cDOTS-2347cDOTS-12347cDOTS-57
cDOTS-157cDOTS-257cDOTS-1257cDOTS-357cDOTS-1357cDOTS-2357cDOTS-12357cDOTS-457cDOTS-1457cDOTS-2457
cDOTS-12457cDOTS-3457cDOTS-13457cDOTS-23457cDOTS-123457cDOTS-67cDOTS-167cDOTS-267cDOTS-1267
cDOTS-367cDOTS-1367cDOTS-2367cDOTS-12367cDOTS-467cDOTS-1467cDOTS-2467cDOTS-12467cDOTS-3467
cDOTS-13467cDOTS-23467cDOTS-123467cDOTS-567cDOTS-1567cDOTS-2567cDOTS-12567cDOTS-3567cDOTS-13567
cDOTS-23567cDOTS-123567cDOTS-4567cDOTS-14567cDOTS-24567cDOTS-124567cDOTS-34567cDOTS-134567
cDOTS-234567cDOTS-1234567cDOTS-8cDOTS-18cDOTS-28cDOTS-128cDOTS-38cDOTS-138cDOTS-238cDOTS-1238
cDOTS-48cDOTS-148cDOTS-248cDOTS-1248cDOTS-348cDOTS-1348cDOTS-2348cDOTS-12348cDOTS-58cDOTS-158
cDOTS-258cDOTS-1258cDOTS-358cDOTS-1358cDOTS-2358cDOTS-12358cDOTS-458cDOTS-1458cDOTS-2458
cDOTS-12458cDOTS-3458cDOTS-13458cDOTS-23458cDOTS-123458cDOTS-68cDOTS-168cDOTS-268cDOTS-1268
cDOTS-368cDOTS-1368cDOTS-2368cDOTS-12368cDOTS-468cDOTS-1468cDOTS-2468cDOTS-12468cDOTS-3468
cDOTS-13468cDOTS-23468cDOTS-123468cDOTS-568cDOTS-1568cDOTS-2568cDOTS-12568cDOTS-3568cDOTS-13568
cDOTS-23568cDOTS-123568cDOTS-4568cDOTS-14568cDOTS-24568cDOTS-124568cDOTS-34568cDOTS-134568
cDOTS-234568cDOTS-1234568cDOTS-78cDOTS-178cDOTS-278cDOTS-1278cDOTS-378cDOTS-1378cDOTS-2378
cDOTS-12378cDOTS-478cDOTS-1478cDOTS-2478cDOTS-12478cDOTS-3478cDOTS-13478cDOTS-23478cDOTS-123478
cDOTS-578cDOTS-1578cDOTS-2578cDOTS-12578cDOTS-3578cDOTS-13578cDOTS-23578cDOTS-123578cDOTS-4578
cDOTS-14578cDOTS-24578cDOTS-124578cDOTS-34578cDOTS-134578cDOTS-234578cDOTS-1234578cDOTS-678
cDOTS-1678cDOTS-2678cDOTS-12678cDOTS-3678cDOTS-13678cDOTS-23678cDOTS-123678cDOTS-4678cDOTS-14678
cDOTS-24678cDOTS-124678cDOTS-34678cDOTS-134678cDOTS-234678cDOTS-1234678cDOTS-5678cDOTS-15678
cDOTS-25678cDOTS-125678cDOTS-35678cDOTS-135678cDOTS-235678cDOTS-1235678cDOTS-45678cDOTS-145678
cDOTS-245678cDOTS-1245678cDOTS-345678cDOTS-1345678cDOTS-2345678cDOTS-12345678
a/ TWO-HEADED ) $ ? me: ? ma^ : ) $ ? ma/ : ) $ ? ma; + : ) $ ? ma/ TWO-HEADED ) FROM BAR
a^ : ) FROM BARa/ : ) FROM BARau ) $ p maUPWARDS ) $ p mbTRIPLE )au TRIPLE )a^ : DASH )
a/ : DASH )a^ TRIPLE DASH )a/ TRIPLE DASH )bTWO-HEADED TRIPLE DASH )b) $ DOTTED STEM
aUPWARDS ) TO BARau ) TO BARa/ ) $ TAIL $ ? mf: ? mbTWO-HEADED ) $ TAILeTAIL $ ? mg: ? m
a^ ARROW-TAILa/ ARROW-TAILa^ : ARROW-TAILa/ : ARROW-TAILa^ ) TO o DIAMONDa/ ) TO o DIAMOND
a^ ) FROM BAR TO o DIAMONDa/ ) FROM BAR TO o DIAMONDaNORTH WEST > SOUTH EAST )
bEAST > SOUTH WEST )bWEST ) $ HOOKbEAST ) $ HOOKaSOUTH EAST ) $ HOOKbWEST ) $ HOOK
aNORTH WEST ) > NORTH EAST )bEAST ) > SOUTH EAST )aSOUTH EAST ) > SOUTH WEST )
bWEST ) > NORTH WEST )aRISING DIAGONAL CROSSING FALLING DIAGONAL
aFALLING DIAGONAL CROSSING RISING DIAGONALaSOUTH EAST ) CROSSING NORTH EAST )
aNORTH EAST ) CROSSING SOUTH EAST )aFALLING DIAGONAL CROSSING NORTH EAST )
aRISING DIAGONAL CROSSING SOUTH EAST )aNORTH EAST ) CROSSING NORTH WEST )
bWEST ) CROSSING NORTH EAST )aWAVE ) POINTING DIRECTLY +a) POINTING / THEN CURVING UPWARDSfu
cu THEN CURVING ^f/aRIGHT-SIDE ARC CLOCKWISE )aLEFT-SIDE ARC ANTICLOCKWISE )
aTOP ARC ANTICLOCKWISE )aBOTTOM ARC ANTICLOCKWISE )aTOP ARC CLOCKWISE ) $ MINUS
cANTICLOCKWISE ) $ PLUSaLOWER + SEMICIRCULAR CLOCKWISE )b; SEMICIRCULAR ANTICLOCKWISE )
aANTICLOCKWISE CLOSED CIRCLE )aCLOCKWISE CLOSED CIRCLE )a/ ) , SHORT ^ )a^ ) , SHORT / )
aSHORT / ) , ^ )a/ ) $ PLUS <a^ ) $ PLUS <a/ ) THROUGH Xa; + ) THROUGH & CIRCLE
aUPWARDS TWO-HEADED ) FROM & CIRCLEa; BARB UP + BARB DOWN HARPOONcDOWN + BARB UP HARPOON
aUP BARB + DOWN BARB ; HARPOONc; DOWN BARB + HARPOONa; BARB UP + BARB UP HARPOON
aUP BARB + DOWN BARB + HARPOONa; BARB DOWN + BARB DOWN HARPOONaUP BARB ; DOWN BARB ; HARPOON
a^ HARPOON $ BARB UP TO BARa/ HARPOON $ BARB UP TO BARaUPWARDS HARPOON $ BARB + TO BAR
au HARPOON $ BARB + TO BARa^ HARPOON $ BARB DOWN TO BARa/ HARPOON $ BARB DOWN TO BAR
aUPWARDS HARPOON $ BARB ; TO BARau HARPOON $ BARB ; TO BARa^ HARPOON $ BARB UP FROM BAR
a/ HARPOON $ BARB UP FROM BARaUPWARDS HARPOON $ BARB + FROM BARau HARPOON $ BARB + FROM BAR
a^ HARPOON $ BARB DOWN FROM BARa/ HARPOON $ BARB DOWN FROM BARaUPWARDS HARPOON $ BARB ; FROM BAR
au HARPOON $ BARB ; FROM BARa^ HARPOON $ BARB UP , ^ HARPOON $ BARB DOWN
aUPWARDS HARPOON $ BARB ; BESIDE UPWARDS HARPOON $ BARB +
a/ HARPOON $ BARB UP , / HARPOON $ BARB DOWNau HARPOON $ BARB ; BESIDE u HARPOON $ BARB +
a^ HARPOON $ BARB UP , / HARPOON $ BARB UPeDOWN , / HARPOON $ BARB DOWN
a/ HARPOON $ BARB UP , ^ HARPOON $ BARB UPeDOWN , ^ HARPOON $ BARB DOWN
a^ HARPOON $ BARB UP , LONG DASHeDOWN < LONG DASHa/ HARPOON $ BARB UP , LONG DASH
eDOWN < LONG DASHaUPWARDS HARPOON $ BARB ; BESIDE u HARPOON $ BARB +
au HARPOON $ BARB ; BESIDE UPWARDS HARPOON $ BARB +a+ : ) $ ROUNDED HEADaEQUALS * , / )
aTILDE OPERATOR , / )a^ ) , TILDE OPERATORa/ ) , TILDE OPERATORdALMOST EQUAL TOaLESS-THAN , ^ )
a^ ) THROUGH LESS-THANaGREATER-THAN , / )aSUBSET , / )a^ ) THROUGH SUBSETaSUPERSET , ^ )
a; FISH TAILa+ FISH TAILaUP FISH TAILaDOWN FISH TAILaTRIPLE ? BAR DELIMITERaZ NOTATION SPOT
cTYPE COLONa; q CURLY wa+ q CURLY wa; q PARENTHESISa+ q PARENTHESISaZ NOTATION ; IMAGE w
c+ IMAGE wc; BINDING wc+ BINDING wa; SQUARE w $ UNDERBARa+ SQUARE w $ UNDERBAR
a; SQUARE w $ TICK IN TOP CORNERa+ SQUARE w $ TICK IN BOTTOM CORNER
a; SQUARE w $ TICK IN BOTTOM CORNERa+ SQUARE w $ TICK IN TOP CORNERa; ANGLE w $ DOT
a+ ANGLE w $ DOTa; ARC LESS-THAN wa+ ARC GREATER-THAN wa: ; ARC GREATER-THAN wb+ ARC LESS-THAN w
a; o TORTOISE SHELL wa+ o TORTOISE SHELL waDOTTED FENCEa? ZIGZAG LINEaMEASURED ANGLE OPENING ;
a+ ANGLE VARIANT $ SQUAREaMEASURED + ANGLE $ DOTaANGLE $ S INSIDEaACUTE ANGLE
aSPHERICAL ANGLE OPENING ;dUPaTURNED ANGLEaREVERSED ANGLEaANGLE $ UNDERBAR
aREVERSED ANGLE $ UNDERBARaOBLIQUE ANGLE OPENING UPdDOWN
aMEASURED ANGLE $ OPEN ARM ENDING IN ) POINTING UP > +l;jDOWN > +l;j+ > UPj; > UPj+ > DOWN
j; > DOWNaREVERSED EMPTY SETaEMPTY SET $ OVERBARd& CIRCLE ,d+ ) ,d; ) ,aCIRCLE $ p BAR
aCIRCLED ? BARbPARALLELbREVERSE SOLIDUSbPERPENDICULAR
aCIRCLE DIVIDED BY p BAR > TOP HALF DIVIDED BY ? BARb$ SUPERIMPOSED X
aCIRCLED ANTICLOCKWISE-ROTATED DIVISION *aUP ) THROUGH CIRCLEaCIRCLED q BULLETbBULLETbLESS-THAN
bGREATER-THANaCIRCLE $ & CIRCLE TO THE +cTWO p STROKES TO THE +aSQUARED RISING DIAGONAL SLASH
bFALLING DIAGONAL SLASHbASTERISKb& CIRCLEbSQUAREaTWO JOINED SQUARESaTRIANGLE $ DOT ,cUNDERBAR
aS IN TRIANGLEaTRIANGLE $ SERIFS AT BOTTOMa+ TRIANGLE , ; TRIANGLEa; TRIANGLE BESIDE ? BAR
a? BAR BESIDE + TRIANGLEaBOWTIE $ ; HALF oc+ HALF oao BOWTIEaTIMES $ ; HALF oc+ HALF o
aq HOURGLASSao HOURGLASSa; WIGGLY FENCEa+ WIGGLY FENCEa; : WIGGLY FENCEa+ : WIGGLY FENCE
aINCOMPLETE INFINITYaTIE OVER INFINITYaINFINITY NEGATED $ ? BARaDOUBLE-ENDED MULTIMAP
aSQUARE $ CONTOURED OUTLINEaINCREASES ASaSHUFFLE PRODUCTaEQUALS * > SLANTED PARALLEL
ePARALLEL $ TILDE ,aIDENTICAL TO > SLANTED PARALLELaGLEICH STARKaTHERMODYNAMIC
aDOWN-POINTING TRIANGLE $ ; HALF od+ HALF oao DIAMOND $ DOWN )bLOZENGEaq CIRCLE $ DOWN )
ao CIRCLE $ DOWN )aERROR-BARRED q SQUAREbo SQUAREbq DIAMONDbo DIAMONDbq CIRCLEbo CIRCLE
aRULE-DELAYEDaREVERSE SOLIDUS OPERATORaSOLIDUS $ OVERBARaREVERSE SOLIDUS $ p maBIG SOLIDUS
bREVERSE SOLIDUSa: PLUSaTRIPLE PLUSaLEFT-POINTING CURVED ANGLE waRIGHT-POINTING CURVED ANGLE w
aTINYaMINY"⟩]

end CallTree.Text.CharName
