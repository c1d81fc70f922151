import CallTree.Text.CharName.Packed

/-!
# Further names of characters

Characters may have further names: control characters, which have no other, abbreviations in use,
and corrections of names that were given in error.
-/

namespace CallTree.Text.CharName

/-- The further names of characters. -/
def aliases : List Run := [
  ⟨0x0, "aNULLaSTART OF HEADINGcTEXTaEND OF TEXTcTRANSMISSIONaENQUIRYaACKNOWLEDGEaALERTaBACKSPACE
aCHARACTER TABULATIONaLINE FEEDbTABULATIONa( FEEDaCARRIAGE RETURNaSHIFT OUTbINaDATA LINK ESCAPE
aDEVICE CONTROL ONEcTWOc|cFOURaNEGATIVE ACKNOWLEDGEaSYNCHRONOUS IDLEaEND OF TRANSMISSION BLOCK
aCANCELaEND OF MEDIUMaSUBSTITUTEaESCAPEaINFORMATION SEPARATOR FOURc|cTWOcONEaSP"⟩,
  ⟨0x7f, "aDELETEaPADDING CHARACTERaHIGH OCTET PRESETaBREAK PERMITTED HEREaNO BREAK HEREaINDEX
aNEXT LINEaSTART OF SELECTED AREAaEND OF SELECTED AREAaCHARACTER TABULATION SETc$ JUSTIFICATION
aLINE TABULATION SETaPARTIAL LINE FORWARDcBACKWARDaREVERSE LINE FEEDaSINGLE SHIFT TWOc|
aDEVICE CONTROL STRINGaPRIVATE USE ONEcTWOaSET TRANSMIT STATEaCANCEL CHARACTERaMESSAGE WAITING
aSTART OF GUARDED AREAaEND OF GUARDED AREAaSTART OF STRINGaSINGLE GRAPHIC CHARACTER INTRODUCER
bCHARACTER INTRODUCERaCONTROL SEQUENCE INTRODUCERaSTRING TERMINATORaOPERATING SYSTEM COMMAND
aPRIVACY MESSAGEaAPPLICATION PROGRAM COMMANDaNBSP"⟩,
  ⟨0xad, "aSHY"⟩,
  ⟨0x1a2, "aLATIN % ! GHAb& ! GHA"⟩,
  ⟨0x34f, "aCGJ"⟩,
  ⟨0x61c, "aALM"⟩,
  ⟨0x709, "aSYRIAC SUBLINEAR COLON SKEWED ;"⟩,
  ⟨0xcde, "aKANNADA ! LLLA"⟩,
  ⟨0xe9d, "aLAO ! FO FON"⟩,
  ⟨0xe9f, "aLAO ! FO FAY"⟩,
  ⟨0xea3, "aLAO ! RO"⟩,
  ⟨0xea5, "aLAO ! LO"⟩,
  ⟨0xfd0, "aTIBETAN r BKA- SHOG GI MGO RGYAN"⟩,
  ⟨0x11ec, "aHANGUL JONGSEONG YESIEUNG-KIYEOKcYESIEUNG-SSANGKIYEOKcSSANGYESIEUNGcYESIEUNG-KHIEUKH"⟩,
  ⟨0x180b, "aFVS1zzaMVSaFVS4"⟩,
  ⟨0x200b, "aZWSPaZWNJaZWJaLRMaRLM"⟩,
  ⟨0x202a, "aLREaRLEaPDFaLROaRLOaNNBSP"⟩,
  ⟨0x205f, "aMMSPaWJ"⟩,
  ⟨0x2066, "aLRIaRLIaFSIaPDI"⟩,
  ⟨0x2118, "aWEIERSTRASS ELLIPTIC FUNCTION"⟩,
  ⟨0x2448, "aMICR ON US nbDASH n"⟩,
  ⟨0x2b7a, "a^ ~ ) $ : ? m"⟩,
  ⟨0x2b7c, "a/ ~ ) $ : ? m"⟩,
  ⟨0xa015, "aYI SYLLABLE ITERATION r"⟩,
  ⟨0xaa6e, "aMYANMAR ! KHAMTI LLA"⟩,
  ⟨0xfe00, "aVS1zzzzzzzzaVS10zzzzzz"⟩,
  ⟨0xfe18, "aPRESENTATION ( FOR ? + q LENTICULAR w"⟩,
  ⟨0xfeff, "aBYTE ORDER r"⟩,
  ⟨0x122d4, "aCUNEIFORM * NU11 TENUdOVER NU11 BUR OVER BUR"⟩,
  ⟨0x16e56, "aMEDEFAIDRIN % ! HdNG"⟩,
  ⟨0x16e76, "aMEDEFAIDRIN & ! HdNG"⟩,
  ⟨0x1b001, "aHENTAIGANA ! E-1"⟩,
  ⟨0x1d0c5, "aBYZANTINE MUSICAL n FTHORA SKLIRON CHROMA VASIS"⟩,
  ⟨0xe0100, "aVS17zzzzzzzzzzzzzzzzzzzzzzzzzzzzzzzzzzzzzzzzzzzzzzzzzzzzzzzzzzzzzzzzzzzzzzzzzzzzzzz
zzzaVS100zzzzzzzzzzzzzzzzzzzzzzzzzzzzzzzzzzzzzzzzzzzzzzzzzzzzzzzzzzzzzzzzzzzzzzzzzzzzzzzzzzzzzzzz
zzzzzzzzzzzzzzzzzzzzzzzzzzzzzzzzzzzzzzzzzzzzzzzzzzzzzzzzzzzzzzzzzzzz"⟩,
  ⟨0x0, "aNULaSOHaSTXaETXaEOTaENQaACKaBELaBSap TABULATIONaNEW LINEa? TABULATIONaFFaCR
aLOCKING-SHIFT ONEbZEROaDLEaDC1zzzaNAKaSYNaETBaCANaEOMaSUBaESCaFILE SEPARATORaGROUP SEPARATOR
aRECORD SEPARATORaUNIT SEPARATOR"⟩,
  ⟨0x7f, "aDELaPADaHOPaBPHaNBHaINDaNELaSSAaESAap TABULATION SETc$ JUSTIFICATIONa? TABULATION SET
aPARTIAL LINE DOWNcUPaREVERSE INDEXaSINGLE-SHIFT-2zaDCSaPRIVATE USE-1zaSTSaCCHaMW
aSTART OF PROTECTED AREAaEND OF PROTECTED AREAaSOSaSGCaSCIaCSIaSTaOSCaPMaAPC"⟩,
  ⟨0xfeff, "aBOM"⟩,
  ⟨0x9, "aHTaEND OF LINEaVT"⟩,
  ⟨0xe, "aSOaSI"⟩,
  ⟨0x1c, "aFSaGSaRSaUS"⟩,
  ⟨0x88, "aHTSaHTJaVTSaPLDaPLUaRIaSS2z"⟩,
  ⟨0x91, "aPU1z"⟩,
  ⟨0x96, "aSPAaEPA"⟩,
  ⟨0xfeff, "aZWNBSP"⟩,
  ⟨0x9, "aTABaEOL"⟩,
  ⟨0xa, "aLF"⟩,
  ⟨0xa, "aNL"⟩]

end CallTree.Text.CharName
