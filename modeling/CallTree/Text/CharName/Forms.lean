import CallTree.Text.CharName.Packed

/-!
# Names of characters: forms

The characters from U+A000 on and below U+10000 whose names follow no rule: syllables of Yi and
Vai, further scripts, and the forms of letters that are kept for the sake of older texts.
-/

namespace CallTree.Text.CharName

/-- The names of these characters. -/
def forms : List Run := [
  ⟨0xa000, "aYI SYLLABLE ITcIXcIcIPcIETcIEXcIEcIEPcATcAXcAcAPcUOXcUOcUOPcOTcOXcOcOPcEXcEcWUcBIT
cBIXcBIcBIPcBIETcBIEXcBIEcBIEPcBATcBAXcBAcBAPcBUOXcBUOcBUOPcBOTcBOXcBOcBOPcBEXcBEcBEPcBUTcBUXcBU
cBUPcBURXcBURcBYTcBYXcBYcBYPcBYRXcBYRcPITcPIXcPIcPIPcPIEXcPIEcPIEPcPATcPAXcPAcPAPcPUOXcPUOcPUOP
cPOTcPOXcPOcPOPcPUTcPUXcPUcPUPcPURXcPURcPYTcPYXcPYcPYPcPYRXcPYRcBBITcBBIXcBBIcBBIPcBBIETcBBIEX
cBBIEcBBIEPcBBATcBBAXcBBAcBBAPcBBUOXcBBUOcBBUOPcBBOTcBBOXcBBOcBBOPcBBEXcBBEcBBEPcBBUTcBBUXcBBU
cBBUPcBBURXcBBURcBBYTcBBYXcBBYcBBYPcNBITcNBIXcNBIcNBIPcNBIEXcNBIEcNBIEPcNBATcNBAXcNBAcNBAPcNBOT
cNBOXcNBOcNBOPcNBUTcNBUXcNBUcNBUPcNBURXcNBURcNBYTcNBYXcNBYcNBYPcNBYRXcNBYRcHMITcHMIXcHMIcHMIP
cHMIEXcHMIEcHMIEPcHMATcHMAXcHMAcHMAPcHMUOXcHMUOcHMUOPcHMOTcHMOXcHMOcHMOPcHMUTcHMUXcHMUcHMUPcHMURX
cHMURcHMYXcHMYcHMYPcHMYRXcHMYRcMITcMIXcMIcMIPcMIEXcMIEcMIEPcMATcMAXcMAcMAPcMUOTcMUOXcMUOcMUOPcMOT
cMOXcMOcMOPcMEXcMEcMUTcMUXcMUcMUPcMURXcMURcMYTcMYXcMYcMYPcFITcFIXcFIcFIPcFATcFAXcFAcFAPcFOXcFO
cFOPcFUTcFUXcFUcFUPcFURXcFURcFYTcFYXcFYcFYPcVITcVIXcVIcVIPcVIETcVIEXcVIEcVIEPcVATcVAXcVAcVAPcVOT
cVOXcVOcVOPcVEXcVEPcVUTcVUXcVUcVUPcVURXcVURcVYTcVYXcVYcVYPcVYRXcVYRcDITcDIXcDIcDIPcDIEXcDIEcDIEP
cDATcDAXcDAcDAPcDUOXcDUOcDOTcDOXcDOcDOPcDEXcDEcDEPcDUTcDUXcDUcDUPcDURXcDURcTITcTIXcTIcTIPcTIEX
cTIEcTIEPcTATcTAXcTAcTAPcTUOTcTUOXcTUOcTUOPcTOTcTOXcTOcTOPcTEXcTEcTEPcTUTcTUXcTUcTUPcTURXcTUR
cDDITcDDIXcDDIcDDIPcDDIEXcDDIEcDDIEPcDDATcDDAXcDDAcDDAPcDDUOXcDDUOcDDUOPcDDOTcDDOXcDDOcDDOPcDDEX
cDDEcDDEPcDDUTcDDUXcDDUcDDUPcDDURXcDDURcNDITcNDIXcNDIcNDIPcNDIEXcNDIEcNDATcNDAXcNDAcNDAPcNDOT
cNDOXcNDOcNDOPcNDEXcNDEcNDEPcNDUTcNDUXcNDUcNDUPcNDURXcNDURcHNITcHNIXcHNIcHNIPcHNIETcHNIEXcHNIE
cHNIEPcHNATcHNAXcHNAcHNAPcHNUOXcHNUOcHNOTcHNOXcHNOPcHNEXcHNEcHNEPcHNUTcNITcNIXcNIcNIPcNIEXcNIE
cNIEPcNAXcNAcNAPcNUOXcNUOcNUOPcNOTcNOXcNOcNOPcNEXcNEcNEPcNUTcNUXcNUcNUPcNURXcNURcHLITcHLIXcHLI
cHLIPcHLIEXcHLIEcHLIEPcHLATcHLAXcHLAcHLAPcHLUOXcHLUOcHLUOPcHLOXcHLOcHLOPcHLEXcHLEcHLEPcHLUTcHLUX
cHLUcHLUPcHLURXcHLURcHLYTcHLYXcHLYcHLYPcHLYRXcHLYRcLITcLIXcLIcLIPcLIETcLIEXcLIEcLIEPcLATcLAXcLA
cLAPcLUOTcLUOXcLUOcLUOPcLOTcLOXcLOcLOPcLEXcLEcLEPcLUTcLUXcLUcLUPcLURXcLURcLYTcLYXcLYcLYPcLYRXcLYR
cGITcGIXcGIcGIPcGIETcGIEXcGIEcGIEPcGATcGAXcGAcGAPcGUOTcGUOXcGUOcGUOPcGOTcGOXcGOcGOPcGETcGEXcGE
cGEPcGUTcGUXcGUcGUPcGURXcGURcKITcKIXcKIcKIPcKIEXcKIEcKIEPcKATcKAXcKAcKAPcKUOXcKUOcKUOPcKOTcKOXcKO
cKOPcKETcKEXcKEcKEPcKUTcKUXcKUcKUPcKURXcKURcGGITcGGIXcGGIcGGIEXcGGIEcGGIEPcGGATcGGAXcGGAcGGAP
cGGUOTcGGUOXcGGUOcGGUOPcGGOTcGGOXcGGOcGGOPcGGETcGGEXcGGEcGGEPcGGUTcGGUXcGGUcGGUPcGGURXcGGURcMGIEX
cMGIEcMGATcMGAXcMGAcMGAPcMGUOXcMGUOcMGUOPcMGOTcMGOXcMGOcMGOPcMGEXcMGEcMGEPcMGUTcMGUXcMGUcMGUP
cMGURXcMGURcHXITcHXIXcHXIcHXIPcHXIETcHXIEXcHXIEcHXIEPcHXATcHXAXcHXAcHXAPcHXUOTcHXUOXcHXUOcHXUOP
cHXOTcHXOXcHXOcHXOPcHXEXcHXEcHXEPcNGIEXcNGIEcNGIEPcNGATcNGAXcNGAcNGAPcNGUOTcNGUOXcNGUOcNGOTcNGOX
cNGOcNGOPcNGEXcNGEcNGEPcHITcHIEXcHIEcHATcHAXcHAcHAPcHUOTcHUOXcHUOcHUOPcHOTcHOXcHOcHOPcHEXcHEcHEP
cWATcWAXcWAcWAPcWUOXcWUOcWUOPcWOXcWOcWOPcWEXcWEcWEPcZITcZIXcZIcZIPcZIEXcZIEcZIEPcZATcZAXcZAcZAP
cZUOXcZUOcZUOPcZOTcZOXcZOcZOPcZEXcZEcZEPcZUTcZUXcZUcZUPcZURXcZURcZYTcZYXcZYcZYPcZYRXcZYRcCITcCIX
cCIcCIPcCIETcCIEXcCIEcCIEPcCATcCAXcCAcCAPcCUOXcCUOcCUOPcCOTcCOXcCOcCOPcCEXcCEcCEPcCUTcCUXcCUcCUP
cCURXcCURcCYTcCYXcCYcCYPcCYRXcCYRcZZITcZZIXcZZIcZZIPcZZIETcZZIEXcZZIEcZZIEPcZZATcZZAXcZZAcZZAP
cZZOXcZZOcZZOPcZZEXcZZEcZZEPcZZUXcZZUcZZUPcZZURXcZZURcZZYTcZZYXcZZYcZZYPcZZYRXcZZYRcNZITcNZIXcNZI
cNZIPcNZIEXcNZIEcNZIEPcNZATcNZAXcNZAcNZAPcNZUOXcNZUOcNZOXcNZOPcNZEXcNZEcNZUXcNZUcNZUPcNZURXcNZUR
cNZYTcNZYXcNZYcNZYPcNZYRXcNZYRcSITcSIXcSIcSIPcSIEXcSIEcSIEPcSATcSAXcSAcSAPcSUOXcSUOcSUOPcSOTcSOX
cSOcSOPcSEXcSEcSEPcSUTcSUXcSUcSUPcSURXcSURcSYTcSYXcSYcSYPcSYRXcSYRcSSITcSSIXcSSIcSSIPcSSIEXcSSIE
cSSIEPcSSATcSSAXcSSAcSSAPcSSOTcSSOXcSSOcSSOPcSSEXcSSEcSSEPcSSUTcSSUXcSSUcSSUPcSSYTcSSYXcSSYcSSYP
cSSYRXcSSYRcZHATcZHAXcZHAcZHAPcZHUOXcZHUOcZHUOPcZHOTcZHOXcZHOcZHOPcZHETcZHEXcZHEcZHEPcZHUTcZHUX
cZHUcZHUPcZHURXcZHURcZHYTcZHYXcZHYcZHYPcZHYRXcZHYRcCHATcCHAXcCHAcCHAPcCHUOTcCHUOXcCHUOcCHUOPcCHOT
cCHOXcCHOcCHOPcCHETcCHEXcCHEcCHEPcCHUXcCHUcCHUPcCHURXcCHURcCHYTcCHYXcCHYcCHYPcCHYRXcCHYRcRRAXcRRA
cRRUOXcRRUOcRROTcRROXcRROcRROPcRRETcRREXcRREcRREPcRRUTcRRUXcRRUcRRUPcRRURXcRRURcRRYTcRRYXcRRY
cRRYPcRRYRXcRRYRcNRATcNRAXcNRAcNRAPcNROXcNROcNROPcNRETcNREXcNREcNREPcNRUTcNRUXcNRUcNRUPcNRURX
cNRURcNRYTcNRYXcNRYcNRYPcNRYRXcNRYRcSHATcSHAXcSHAcSHAPcSHUOXcSHUOcSHUOPcSHOTcSHOXcSHOcSHOPcSHET
cSHEXcSHEcSHEPcSHUTcSHUXcSHUcSHUPcSHURXcSHURcSHYTcSHYXcSHYcSHYPcSHYRXcSHYRcRATcRAXcRAcRAPcRUOX
cRUOcRUOPcROTcROXcROcROPcREXcREcREPcRUTcRUXcRUcRUPcRURXcRURcRYTcRYXcRYcRYPcRYRXcRYRcJITcJIXcJI
cJIPcJIETcJIEXcJIEcJIEPcJUOTcJUOXcJUOcJUOPcJOTcJOXcJOcJOPcJUTcJUXcJUcJUPcJURXcJURcJYTcJYXcJYcJYP
cJYRXcJYRcQITcQIXcQIcQIPcQIETcQIEXcQIEcQIEPcQUOTcQUOXcQUOcQUOPcQOTcQOXcQOcQOPcQUTcQUXcQUcQUPcQURX
cQURcQYTcQYXcQYcQYPcQYRXcQYRcJJITcJJIXcJJIcJJIPcJJIETcJJIEXcJJIEcJJIEPcJJUOXcJJUOcJJUOPcJJOTcJJOX
cJJOcJJOPcJJUTcJJUXcJJUcJJUPcJJURXcJJURcJJYTcJJYXcJJYcJJYPcNJITcNJIXcNJIcNJIPcNJIETcNJIEXcNJIE
cNJIEPcNJUOXcNJUOcNJOTcNJOXcNJOcNJOPcNJUXcNJUcNJUPcNJURXcNJURcNJYTcNJYXcNJYcNJYPcNJYRXcNJYRcNYIT
cNYIXcNYIcNYIPcNYIETcNYIEXcNYIEcNYIEPcNYUOXcNYUOcNYUOPcNYOTcNYOXcNYOcNYOPcNYUTcNYUXcNYUcNYUPcXIT
cXIXcXIcXIPcXIETcXIEXcXIEcXIEPcXUOXcXUOcXOTcXOXcXOcXOPcXYTcXYXcXYcXYPcXYRXcXYRcYITcYIXcYIcYIP
cYIETcYIEXcYIEcYIEPcYUOTcYUOXcYUOcYUOPcYOTcYOXcYOcYOPcYUTcYUXcYUcYUPcYURXcYURcYYTcYYXcYYcYYPcYYRX
cYYR"⟩,
  ⟨0xa490, "aYI RADICAL QOTcLIcKITcNYIPcCYPcSSIcGGOPcGEPcMIcHXITcLYRcBBUTcMOPcYOcPUTcHXUOcTATcGA
cZUPcCYTcDDURcBURcGGUOcNYOPcTUcOPcJJUTcZOTcPYTcHMOcYITcVURcSHYcVEPcZAcJOcNZUPcJJYcGOTcJJIEcWOcDU
cSHURcLIEcCYcCUOPcCIPcHXOPcSHATcZURcSHOPcCHEcZZIETcNBIEcKE"⟩,
  ⟨0xa4d0, "aLISU ! BAcPAcPHAcDAcTAcTHAcGAcKAcKHAcJAcCAcCHAcDZAcTSAcTSHAcMAcNAcLAcSAcZHAcZAcNGA
cHAcXAcHHAcFAcWAcSHAcYAcGHAcAcAEcEcEUcIcOcUcUEcUHcOEcTONE MYA TIdNA POdMYA CYAeBOeNAeJEU
bPUNCTUATION COMMAcFULL STOPaVAI SYLLABLE EEcEENcHEEcWEEcWEENcPEEcBHEEcBEEcMBEEcKPEEcMGBEEcGBEE
cFEEcVEEcTEEcTHEEcDHEEcDHHEEcLEEcREEcDEEcNDEEcSEEcSHEEcZEEcZHEEcCEEcJEEcNJEEcYEEcKEEcNGGEEcGEE
cMEEcNEEcNYEEcIcINcHIcHINcWIcWINcPIcBHIcBIcMBIcKPIcMGBIcGBIcFIcVIcTIcTHIcDHIcDHHIcLIcRIcDIcNDIcSI
cSHIcZIcZHIcCIcJIcNJIcYIcKIcNGGIcGIcMIcNIcNYIcAcANcNGANcHAcHANcWAcWANcPAcBHAcBAcMBAcKPAcKPANcMGBA
cGBAcFAcVAcTAcTHAcDHAcDHHAcLAcRAcDAcNDAcSAcSHAcZAcZHAcCAcJAcNJAcYAcKAcKANcNGGAcGAcMAcNAcNYAcOO
cOONcHOOcWOOcWOONcPOOcBHOOcBOOcMBOOcKPOOcMGBOOcGBOOcFOOcVOOcTOOcTHOOcDHOOcDHHOOcLOOcROOcDOOcNDOO
cSOOcSHOOcZOOcZHOOcCOOcJOOcNJOOcYOOcKOOcNGGOOcGOOcMOOcNOOcNYOOcUcUNcHUcHUNcWUcWUNcPUcBHUcBUcMBU
cKPUcMGBUcGBUcFUcVUcTUcTHUcDHUcDHHUcLUcRUcDUcNDUcSUcSHUcZUcZHUcCUcJUcNJUcYUcKUcNGGUcGUcMUcNUcNYU
cOcONcNGONcHOcHONcWOcWONcPOcBHOcBOcMBOcKPOcMGBOcGBOcGBONcFOcVOcTOcTHOcDHOcDHHOcLOcROcDOcNDOcSO
cSHOcZOcZHOcCOcJOcNJOcYOcKOcNGGOcGOcMOcNOcNYOcEcENcNGENcHEcHENcWEcWENcPEcBHEcBEcMBEcKPEcKPENcMGBE
cGBEcGBENcFEcVEcTEcTHEcDHEcDHHEcLEcREcDEcNDEcSEcSHEcZEcZHEcCEcJEcNJEcYEcKEcNGGEcNGGENcGEcGENcME
cNEcNYEcNGcLENGTHENERbCOMMAbFULL STOPbQUESTION rbSYLLABLE NDOLE FAdKAdSOObn FEENGcKEENGcTINGcNII
cBANGcFAAcTAAcDANGcDOONGcKUNGcTONGcDO-OcJONGbDIGIT ZEROcONEcTWOc|cFOURcFIVEcSIXcSEVENcEIGHTcNINE
bSYLLABLE NDOLE MAdDO"⟩,
  ⟨0xa640, "aCYRILLIC % ! ZEMLYAb& ! ZEMLYAb% ! DZELOb& ! DZELOb% ! REVERSED DZEb& ! REVERSED DZE
b% ! IOTAb& ! IOTAb% ! DJERVb& ! DJERVb% ! MONOGRAPH UKb& ! MONOGRAPH UKb% ! BROAD OMEGA
b& ! BROAD OMEGAb% ! NEUTRAL YERb& ! NEUTRAL YERb% ! YERU $ BACK YERb& ! YERU $ BACK YER
b% ! IOTIFIED YATb& ! IOTIFIED YATb% ! REVERSED YUb& ! REVERSED YUb% ! IOTIFIED Ab& ! IOTIFIED A
b% ! CLOSED LITTLE YUSb& ! CLOSED LITTLE YUSb% ! BLENDED YUSb& ! BLENDED YUS
b% ! IOTIFIED CLOSED LITTLE YUSb& ! IOTIFIED CLOSED LITTLE YUSb% ! YNb& ! YNb% ! REVERSED TSE
b& ! REVERSED TSEb% ! SOFT DEb& ! SOFT DEb% ! SOFT ELb& ! SOFT ELb% ! SOFT EMb& ! SOFT EM
b% ! MONOCULAR Ob& ! MONOCULAR Ob% ! BINOCULAR Ob& ! BINOCULAR Ob% ! : MONOCULAR O
b& ! : MONOCULAR Ob! MULTIOCULAR OaCOMBINING CYRILLIC VZMETcTEN MILLIONS *ct MILLIONS *
cv MILLIONS *aSLAVONIC ASTERISKaCOMBINING CYRILLIC ! UKRAINIAN IEdIdYIdUdHARD *dYERUdSOFT *dOMEGA
cKAVYKAcPAYEROKaCYRILLIC KAVYKAbPAYEROKb% ! DWEb& ! DWEb% ! DZWEb& ! DZWEb% ! ZHWEb& ! ZHWE
b% ! CCHEb& ! CCHEb% ! DZZEb& ! DZZEb% ! TE $ s HOOKb& ! TE $ s HOOKb% ! TWEb& ! TWEb% ! TSWE
b& ! TSWEb% ! TSSEb& ! TSSEb% ! TCHEb& ! TCHEb% ! HWEb& ! HWEb% ! SHWEb& ! SHWEb% ! : Ob& ! : O
b% ! CROSSED Ob& ! CROSSED OaMODIFIER ! CYRILLIC HARD *dSOFT *aCOMBINING CYRILLIC ! EFdIOTIFIED E
aBAMUM ! AcKAcUcKUcEEcREEcTAEcOcNYIcIcLAcPAcRIIcRIEEcLEEEEcMEEEEcTAAcNDAAcNJAEMcMcSUUcMUcSHIIcSI
cSHEUXcSEUXcKYEEcKETcNUAEcNUcNJUAEcYOQcSHUcYUQcYAcNSHAcKEUXcPEUXcNJEEcNTEEcPUEcWUEcPEEcFEEcRUcLU
cMIcNIcREUXcRAEcKENcNGKWAENcNGGAcNGAcSHOcPUAEcFUcFOMcWAcNAcLIcPIcLOQcKOcMBENcRENcMENcMAcTIcKIcMO
cMBAAcTETcKPAcTENcNTUUcSAMBAcFAAMAEcKOVUUcKOGHOMbCOMBINING r KOQNDONdTUKWENTISbNJAEMLIbFULL STOP
bCOLONbCOMMAbSEMICOLONbQUESTION r"⟩,
  ⟨0xa700, "aMODIFIER ! CHINESE TONE YIN PINGeYANG PINGeYIN SHANGeYANG SHANGeYIN QUeYANG QU
eYIN RUeYANG RUcEXTRA-HIGH DOTTED TONE BARcHIGH DOTTED TONE BARcMID DOTTED TONE BAR
cLOW DOTTED TONE BARcEXTRA-LOW DOTTED TONE BARcEXTRA-HIGH DOTTED LEFT-STEM TONE BAR
cHIGH DOTTED LEFT-STEM TONE BARcMID DOTTED LEFT-STEM TONE BARcLOW DOTTED LEFT-STEM TONE BAR
cEXTRA-LOW DOTTED LEFT-STEM TONE BARcEXTRA-HIGH LEFT-STEM TONE BARcHIGH LEFT-STEM TONE BAR
cMID LEFT-STEM TONE BARcLOW LEFT-STEM TONE BARcEXTRA-LOW LEFT-STEM TONE BARcDOT ? BARdSLASHdp BAR
cLOWER + CORNER ANGLEcRAISED UP )dDOWN )dEXCLAMATION rdINVERTED EXCLAMATION r
cLOW INVERTED EXCLAMATION rcSTRESS > HIGH TONEeLOW TONEaLATIN % ! EGYPTOLOGICAL ALEF
b& ! EGYPTOLOGICAL ALEFb% ! EGYPTOLOGICAL AINb& ! EGYPTOLOGICAL AINb% ! HENGb& ! HENGb% ! TZ
b& ! TZb% ! TRESILLOb& ! TRESILLOb% ! CUATRILLOb& ! CUATRILLOb% ! CUATRILLO $ COMMA
b& ! CUATRILLO $ COMMAb! & % FeSb% ! AAb& ! AAb% ! AOb& ! AOb% ! AUb& ! AUb% ! AVb& ! AV
b% ! AV $ p BARb& ! AV $ p BARb% ! AYb& ! AYb% ! REVERSED C $ DOTb& ! REVERSED C $ DOTb% ! K $ m
b& ! K $ mb% ! K $ DIAGONAL mb& ! K $ DIAGONAL mb% ! K $ m > DIAGONAL mb& ! K $ m > DIAGONAL m
b% ! BROKEN Lb& ! BROKEN Lb% ! L $ HIGH mb& ! L $ HIGH mb% ! O $ LONG m OVERLAY
b& ! O $ LONG m OVERLAYb% ! O $ LOOPb& ! O $ LOOPb% ! OOb& ! OOb% ! P $ m THROUGH DESCENDER
b& ! P $ m THROUGH DESCENDERb% ! P $ FLOURISHb& ! P $ FLOURISHb% ! P $ SQUIRREL TAIL
b& ! P $ SQUIRREL TAILb% ! Q $ m THROUGH DESCENDERb& ! Q $ m THROUGH DESCENDERb% ! Q $ DIAGONAL m
b& ! Q $ DIAGONAL mb% ! R ROTUNDAb& ! R ROTUNDAb% ! RUM ROTUNDAb& ! RUM ROTUNDA
b% ! V $ DIAGONAL mb& ! V $ DIAGONAL mb% ! VYb& ! VYb% ! VISIGOTHIC Zb& ! VISIGOTHIC Z
b% ! THORN $ mb& ! THORN $ mb% ! THORN $ m THROUGH DESCENDERb& ! THORN $ m THROUGH DESCENDER
b% ! VENDb& ! VENDb% ! ETb& ! ETb% ! ISb& ! ISb% ! CONb& ! CONaMODIFIER ! USaLATIN & ! DUMdLUM
dMUMdNUMdRUMb! & % RUMb& ! TUMdUMb% ! INSULAR Db& ! INSULAR Db% ! INSULAR Fb& ! INSULAR F
b% ! INSULAR GdTURNED INSULAR Gb& ! TURNED INSULAR Gb% ! TURNED Lb& ! TURNED Lb% ! INSULAR R
b& ! INSULAR Rb% ! INSULAR Sb& ! INSULAR Sb% ! INSULAR Tb& ! INSULAR TaMODIFIER ! LOW x ACCENT
cCOLONcSHORT EQUALS *aLATIN % ! SALTILLOb& ! SALTILLOb% ! TURNED Hb& ! L $ RETROFLEX HOOK > BELT
b! SINOLOGICAL DOTb% ! N $ DESCENDERb& ! N $ DESCENDERb% ! C $ BARb& ! C $ BARfPALATAL HOOK
dH $ PALATAL HOOKb% ! B $ FLOURISHb& ! B $ FLOURISHb% ! F $ mb& ! F $ mb% ! VOLAPUK AE
b& ! VOLAPUK AEb% ! VOLAPUK OEb& ! VOLAPUK OEb% ! VOLAPUK UEb& ! VOLAPUK UEb% ! G $ OBLIQUE m
b& ! G $ OBLIQUE mb% ! K $ OBLIQUE mb& ! K $ OBLIQUE mb% ! N $ OBLIQUE mb& ! N $ OBLIQUE m
b% ! R $ OBLIQUE mb& ! R $ OBLIQUE mb% ! S $ OBLIQUE mb& ! S $ OBLIQUE mb% ! H $ HOOK
dREVERSED OPEN EdSCRIPT GdL $ BELTd& % Ib! & % Qb% ! TURNED KeTdJ $ CROSSED-TAILdCHIdBETA
b& ! BETAb% ! OMEGAb& ! OMEGAb% ! U $ mb& ! U $ mb% ! GLOTTAL Ab& ! GLOTTAL Ab% ! GLOTTAL I
b& ! GLOTTAL Ib% ! GLOTTAL Ub& ! GLOTTAL Ub% ! OLD POLISH Ob& ! OLD POLISH Ob% ! ANGLICANA W
b& ! ANGLICANA Wb% ! C $ PALATAL HOOKdS $ HOOKdZ $ PALATAL HOOKdD $ SHORT m OVERLAY
b& ! D $ SHORT m OVERLAYb% ! S $ SHORT m OVERLAYb& ! S $ SHORT m OVERLAY"⟩,
  ⟨0xa7d0, "aLATIN % ! CLOSED INSULAR Gb& ! CLOSED INSULAR G"⟩,
  ⟨0xa7d3, "aLATIN & ! : THORN"⟩,
  ⟨0xa7d5, "aLATIN & ! : WYNNb% ! s SCOTS Sb& ! s SCOTS Sb% ! SIGMOID Sb& ! SIGMOID S"⟩,
  ⟨0xa7f2, "aMODIFIER ! % CdFdQaLATIN % ! REVERSED HALF Hb& ! REVERSED HALF H
bEPIGRAPHIC ! SIDEWAYS IaMODIFIER ! % H $ mc& LIGATURE OEaLATIN ! & % TURNED M
bEPIGRAPHIC ! REVERSED FePdINVERTED MdI LONGAdARCHAIC MaSYLOTI NAGRI ! AdIc* DVISVARAc! UdEdO
c* HASANTAc! KOdKHOdGOdGHOc* ANUSVARAc! COdCHOdJOdJHOdTTOdTTHOdDDOdDDHOdTOdTHOdDOdDHOdNOdPOdPHO
dBOdBHOdMOdROdLOdRROdSOdHOcVOWEL * AeIeUeEeOOcPOETRY MARK-1zzzc* ALTERNATE HASANTA"⟩,
  ⟨0xa830, "aNORTH INDIC FRACTION ONE QUARTEReHALFd| QUARTERSdONE SIXTEENTHeEIGHTHd| SIXTEENTHS
cQUARTER rcPLACEHOLDER rcRUPEE rcQUANTITY r"⟩,
  ⟨0xa840, "aPHAGS-PA ! KAcKHAcGAcNGAcCAcCHAcJAcNYAcTAcTHAcDAcNAcPAcPHAcBAcMAcTSAcTSHAcDZAcWAcZHA
cZAc& AcYAcRAcLAcSHAcSAcHAcAcIcUcEcOcQAcXAcFAcGGAcEEbSUBJOINED ! WAdYAb! TTAcTTHAcDDAcNNA
cALTERNATE YAcVOICELESS SHAcVOICED HAcASPIRATED FAbSUBJOINED ! RAbSUPERFIXED ! RAb! CANDRABINDU
bSINGLE HEAD rb: HEAD rbr SHADc: SHAD"⟩,
  ⟨0xa880, "aSAURASHTRA * ANUSVARAcVISARGAb! AcAAcIcIIcUcUUcVOCALIC RdRRdLdLLcEcEEcAIcOcOOcAUcKA
cKHAcGAcGHAcNGAcCAcCHAcJAcJHAcNYAcTTAcTTHAcDDAcDDHAcNNAcTAcTHAcDAcDHAcNAcPAcPHAcBAcBHAcMAcYAcRA
cLAcVAcSHAcSSAcSAcHAcLLAbCONSONANT * HAARUbVOWEL * AAdIdIIdUdUUdVOCALIC ReRReLeLLdEdEEdAIdOdOOdAU
b* VIRAMAcCANDRABINDU"⟩,
  ⟨0xa8ce, "aSAURASHTRA DANDAb: DANDAbDIGIT ZEROcONEcTWOc|cFOURcFIVEcSIXcSEVENcEIGHTcNINE"⟩,
  ⟨0xa8e0, "aCOMBINING DEVANAGARI DIGIT ZEROdONEdTWOd|dFOURdFIVEdSIXdSEVENdEIGHTdNINEc! AdUdKAdNA
dPAdRAdVIc* AVAGRAHAaDEVANAGARI * SPACING CANDRABINDUcCANDRABINDU VIRAMAc: CANDRABINDU VIRAMA
cCANDRABINDU TWOd|dAVAGRAHAcPUSHPIKAbGAP FILLERbCARETbHEADSTROKEb* SIDDHAMbJAIN OMb! AY
bVOWEL * AYaKAYAH LI DIGIT ZEROdONEdTWOd|dFOURdFIVEdSIXdSEVENdEIGHTdNINEc! KAdKHAdGAdNGAdSAdSHA
dZAdNYAdTAdHTAdNAdPAdPHAdMAdDAdBAdRAdYAdLAdWAdTHAdHAdVAdCAdAdOEdIdOOcVOWEL UEdEdUdEEdO
cTONE PLOPHUdCALYAdCALYA PLOPHUc* CWIdSHYAaREJANG ! KAcGAcNGAcTAcDAcNAcPAcBAcMAcCAcJAcNYAcSAcRA
cLAcYAcWAcHAcMBAcNGGAcNDAcNYJAcAbVOWEL * IdUdEdAIdOdAUdEUdEAbCONSONANT * NGdNdRdHbVIRAMA"⟩,
  ⟨0xa95f, "aREJANG SECTION raHANGUL CHOSEONG TIKEUT-MIEUMcTIKEUT-PIEUPcTIKEUT-SIOScTIKEUT-CIEUC
cRIEUL-KIYEOKcRIEUL-SSANGKIYEOKcRIEUL-TIKEUTcRIEUL-SSANGTIKEUTcRIEUL-MIEUMcRIEUL-PIEUP
cRIEUL-SSANGPIEUPcRIEUL-KAPYEOUNPIEUPcRIEUL-SIOScRIEUL-CIEUCcRIEUL-KHIEUKHcMIEUM-KIYEOK
cMIEUM-TIKEUTcMIEUM-SIOScPIEUP-SIOS-THIEUTHcPIEUP-KHIEUKHcPIEUP-HIEUHcSSANGSIOS-PIEUPcIEUNG-RIEUL
cIEUNG-HIEUHcSSANGCIEUC-HIEUHcSSANGTHIEUTHcPHIEUPH-HIEUHcHIEUH-SIOScSSANGYEORINHIEUH"⟩,
  ⟨0xa980, "aJAVANESE * PANYANGGAcCECAKcLAYARcWIGNYANb! AcI KAWIcIcIIcUcPA CEREKcNGA LELET
dLELET RASWADIcEcAIcOcKAcKA SASAKdMURDAcGAcGA MURDAcNGAcCAcCA MURDAcJAcNYA MURDAcJA MAHAPRANAcNYA
cTTAcTTA MAHAPRANAcDDAcDDA MAHAPRANAcNA MURDAcTAcTA MURDAcDAcDA MAHAPRANAcNAcPAcPA MURDAcBA
cBA MURDAcMAcYAcRAcRA AGUNGcLAcWAcSA MURDAdMAHAPRANAcSAcHAb* CECAK TELUbVOWEL * TARUNGdTOLONG
dWULUdWULU MELIKdSUKUdSUKU MENDUTdTALINGdDIRGA MUREdPEPETbCONSONANT * KERETdPENGKALdCAKRAbPANGKON
b; RERENGGANb+ RERENGGANbPADA ANDAPcMADYAcLUHURcWINDUcPANGKATcLINGSAcLUNGSIcADEGcADEG ADEG
cPISELEHbTURNED PADA PISELEH"⟩,
  ⟨0xa9cf, "aJAVANESE PANGRANGKEPbDIGIT ZEROcONEcTWOc|cFOURcFIVEcSIXcSEVENcEIGHTcNINE"⟩,
  ⟨0xa9de, "aJAVANESE PADA TIRTA TUMETEScISEN-ISENaMYANMAR ! SHAN GHAdCHAdJHAdNNAdBHAb* SHAN SAW
bMODIFIER ! SHAN REDUPLICATIONb! TAI LAING NYAeFAeGAeGHAeJAeJHAeDDAeDDHAeNNAbTAI LAING DIGIT ZERO
eONEeTWOe|eFOUReFIVEeSIXeSEVENeEIGHTeNINEb! TAI LAING LLAeDAeDHAeBAeBHA"⟩,
  ⟨0xaa00, "aCHAM ! AcIcUcEcAIcOcKAcKHAcGAcGHAcNGUEcNGAcCHAcCHHAcJAcJHAcNHUEcNHAcNHJAcTAcTHAcDA
cDHAcNUEcNAcDDAcPAcPPAcPHAcBAcBHAcMUEcMAcBBAcYAcRAcLAcVAcSSAcSAcHAbVOWEL * AAdIdIIdEIdUdOEdOdAI
dAUdUEbCONSONANT * YAdRAdLAdWA"⟩,
  ⟨0xaa40, "aCHAM ! = KdGdNGbCONSONANT * = NGb! = CHdTdNdPdYdRdLdSSbCONSONANT * = MeH"⟩,
  ⟨0xaa50, "aCHAM DIGIT ZEROcONEcTWOc|cFOURcFIVEcSIXcSEVENcEIGHTcNINE"⟩,
  ⟨0xaa5c, "aCHAM PUNCTUATION SPIRALcDANDAc: DANDAcTRIPLE DANDAaMYANMAR ! KHAMTI GAdCAdCHAdJAdJHA
dNYAdTTAdTTHAdDDAdDDHAdDHAdNAdSAdHAdHHAdFAbMODIFIER ! KHAMTI REDUPLICATIONb! KHAMTI XAdZAdRA
bLOGOGRAM KHAMTI OAYdQNdHMbn AITON EXCLAMATIONdONEdTWOb! AITON RAb* PAO KAREN TONE
cTAI LAING TONE-2eTONE-5b! SHWE PALAUNG CHAeSHAaTAI VIET ! LOW KOdHIGH KOdLOW KHOdHIGH KHO
dLOW KHHOdHIGH KHHOdLOW GOdHIGH GOdLOW NGOdHIGH NGOdLOW COdHIGH COdLOW CHOdHIGH CHOdLOW SO
dHIGH SOdLOW NYOdHIGH NYOdLOW DOdHIGH DOdLOW TOdHIGH TOdLOW THOdHIGH THOdLOW NOdHIGH NOdLOW BO
dHIGH BOdLOW POdHIGH POdLOW PHOdHIGH PHOdLOW FOdHIGH FOdLOW MOdHIGH MOdLOW YOdHIGH YOdLOW RO
dHIGH ROdLOW LOdHIGH LOdLOW VOdHIGH VOdLOW HOdHIGH HOdLOW OdHIGH OcMAI KANGcVOWEL AAdIdUEdUdEdO
cMAI KHITcVOWEL IAdUEAdUAdAUEdAYdANdAMcTONE MAI EKeNUENGeTHOeSONG"⟩,
  ⟨0xaadb, "aTAI VIET n KONdNUENGdSAMdHO HOIdKOI KOIaMEETEI MAYEK ! EdOdCHAdNYAdTTAdTTHAdDDAdDDHA
dNNAdSHAdSSAcVOWEL * IIeUUeAAIeAUeAAUcCHEIKHANcAHANG KHUDAMcANJIcSYLLABLE REPETITION r
cWORD REPETITION rcVOWEL * VISARGAcVIRAMA"⟩,
  ⟨0xab01, "aETHIOPIC SYLLABLE TTHUcTTHIcTTHAAcTTHEEcTTHEcTTHO"⟩,
  ⟨0xab09, "aETHIOPIC SYLLABLE DDHUcDDHIcDDHAAcDDHEEcDDHEcDDHO"⟩,
  ⟨0xab11, "aETHIOPIC SYLLABLE DZUcDZIcDZAAcDZEEcDZEcDZO"⟩,
  ⟨0xab20, "aETHIOPIC SYLLABLE CCHHAcCCHHUcCCHHIcCCHHAAcCCHHEEcCCHHEcCCHHO"⟩,
  ⟨0xab28, "aETHIOPIC SYLLABLE BBAcBBUcBBIcBBAAcBBEEcBBEcBBO"⟩,
  ⟨0xab30, "aLATIN & ! BARRED ALPHAdA REVERSED-SCHWAdBLACKLETTER EdBARRED EdE $ FLOURISHdLENIS F
dSCRIPT G $ CROSSED-TAILdL $ INVERTED LAZY Sf: s TILDEfs RINGdM $ CROSSED-TAILdN $ CROSSED-TAIL
dENG $ CROSSED-TAILdBLACKLETTER OeO $ mdOPEN O $ mdINVERTED OEdTURNED OE $ mgp meO OPEN-O
fOPEN-O $ mdSTIRRUP Rb! & % R $ + LEGb& ! R WITHOUT HANDLEd: RdR $ CROSSED-TAIL
d: R $ CROSSED-TAILdSCRIPT ReR $ RINGdBASELINE ESHdU $ SHORT + LEGeBAR $ SHORT + LEGdUIdTURNED UI
dU $ ; HOOKdCHIdCHI $ LOW + RINGg; SERIFdX $ LOW + RINGfLONG ; LEGhLEG > LOW + RINGi$ SERIF
dY $ SHORT + LEGaMODIFIER BREVE $ INVERTED BREVEb! & HENGdL $ INVERTED LAZY Sfs TILDEdU $ ; HOOK
aLATIN & ! SAKHA YATdIOTIFIED EdOPEN OEdUOdINVERTED ALPHAaGREEK ! & % OMEGA
aLATIN & ! DZ DIGRAPH $ RETROFLEX HOOKdTS DIGRAPH $ RETROFLEX HOOKdTURNED R $ s TILDE
aMODIFIER ! & TURNED Wc; TACKc+ TACK"⟩,
  ⟨0xab70, "aCHEROKEE & ! AdEdIdOdUzdGAdKAdGEdGIdGOdGUzdHAdHEdHIdHOdHUzdLAdLEdLIdLOdLUzdMAdMEdMI
dMOdMUdNAdHNAdNAHdNEdNIdNOdNUzdQUAdQUEdQUIdQUOdQUUzdSAdSdSEdSIdSOdSUzdDAdTAdDEdTEdDIdTIdDOdDUz
dDLAdTLAdTLEdTLIdTLOdTLUzdTSAdTSEdTSIdTSOdTSUzdWAdWEdWIdWOdWUzdYAaMEETEI MAYEK ! KOKdSAMdLAIdMIT
dPAdNAdCHILdTILdKHOUdNGOUdTHOUdWAIdYANGdHUKdUNdIdPHAMdATIYAdGOKdJHAMdRAIdBAdJILdDILdGHOUdDHOU
dBHAMdKOK LONSUMdLAI LONSUMdMIT LONSUMdPA LONSUMdNA LONSUMdTIL LONSUMdNGOU LONSUMdI LONSUM
cVOWEL * ONAPeINAPeANAPeYENAPeSOUNAPeUNAPeCHEINAPeNUNGcCHEIKHEIcLUM IYEKcAPUN IYEK"⟩,
  ⟨0xabf0, "aMEETEI MAYEK DIGIT ZEROdONEdTWOd|dFOURdFIVEdSIXdSEVENdEIGHTdNINE"⟩,
  ⟨0xd7b0, "aHANGUL JUNGSEONG O-YEOcO-O-IcYO-AcYO-AEcYO-EOcU-YEOcU-I-IcYU-AEcYU-OcEU-AcEU-EOcEU-E
cEU-OcI-YA-OcI-YAEcI-YEOcI-YEcI-O-IcI-YOcI-YUcI-IcARAEA-AcARAEA-E"⟩,
  ⟨0xd7cb, "aHANGUL JONGSEONG NIEUN-RIEULcNIEUN-CHIEUCHcSSANGTIKEUTcSSANGTIKEUT-PIEUP
cTIKEUT-PIEUPcTIKEUT-SIOScTIKEUT-SIOS-KIYEOKcTIKEUT-CIEUCcTIKEUT-CHIEUCHcTIKEUT-THIEUTH
cRIEUL-SSANGKIYEOKcRIEUL-KIYEOK-HIEUHcSSANGRIEUL-KHIEUKHcRIEUL-MIEUM-HIEUHcRIEUL-PIEUP-TIKEUT
cRIEUL-PIEUP-PHIEUPHcRIEUL-YESIEUNGcRIEUL-YEORINHIEUH-HIEUHcKAPYEOUNRIEULcMIEUM-NIEUN
cMIEUM-SSANGNIEUNcSSANGMIEUMcMIEUM-PIEUP-SIOScMIEUM-CIEUCcPIEUP-TIKEUTcPIEUP-RIEUL-PHIEUPH
cPIEUP-MIEUMcSSANGPIEUPcPIEUP-SIOS-TIKEUTcPIEUP-CIEUCcPIEUP-CHIEUCHcSIOS-MIEUMcSIOS-KAPYEOUNPIEUP
cSSANGSIOS-KIYEOKcSSANGSIOS-TIKEUTcSIOS-PANSIOScSIOS-CIEUCcSIOS-CHIEUCHcSIOS-THIEUTHcSIOS-HIEUH
cPANSIOS-PIEUPcPANSIOS-KAPYEOUNPIEUPcYESIEUNG-MIEUMcYESIEUNG-HIEUHcCIEUC-PIEUPcCIEUC-SSANGPIEUP
cSSANGCIEUCcPHIEUPH-SIOScPHIEUPH-THIEUTH"⟩,
  ⟨0xfb00, "aLATIN & LIGATURE FFdFIdFLdFFIdFFLdLONG S TdST"⟩,
  ⟨0xfb13, "aARMENIAN & LIGATURE MEN NOWeECHeINIdVEW NOWdMEN XEH"⟩,
  ⟨0xfb1d, "aHEBREW ! YOD $ HIRIQbPOINT JUDEO-SPANISH VARIKAbLIGATURE YIDDISH YOD YOD PATAH
b! ALTERNATIVE AYINcWIDE ALEFdDALETdHEdKAFdLAMEDd= MEMdRESHdTAVcALTERNATIVE PLUS *
cSHIN $ SHIN DOTeSIN DOTeDAGESH > SHIN DOTgSIN DOTcALEF $ PATAHeQAMATSeMAPIQcBET $ DAGESH
cGIMEL $ DAGESHcDALET $ DAGESHcHE $ MAPIQcVAV $ DAGESHcZAYIN $ DAGESH"⟩,
  ⟨0xfb38, "aHEBREW ! TET $ DAGESHcYOD $ DAGESHc= KAF $ DAGESHcKAF $ DAGESHcLAMED $ DAGESH"⟩,
  ⟨0xfb3e, "aHEBREW ! MEM $ DAGESH"⟩,
  ⟨0xfb40, "aHEBREW ! NUN $ DAGESHcSAMEKH $ DAGESH"⟩,
  ⟨0xfb43, "aHEBREW ! = PE $ DAGESHcPE $ DAGESH"⟩,
  ⟨0xfb46, "aHEBREW ! TSADI $ DAGESHcQOF $ DAGESHcRESH $ DAGESHcSHIN $ DAGESHcTAV $ DAGESH
cVAV $ HOLAMcBET $ RAFEcKAF $ RAFEcPE $ RAFEbLIGATURE ALEF LAMEDaARABIC ! ALEF WASLA . (e= (
cBEEH . (d= (d_ (dMEDIAL (cPEH . (d= (d_ (dMEDIAL (cBEHEH . (d= (d_ (dMEDIAL (cTTEHEH . (d= (d_ (
dMEDIAL (cTEHEH . (d= (d_ (dMEDIAL (cTTEH . (d= (d_ (dMEDIAL (cVEH . (d= (d_ (dMEDIAL (cPEHEH . (
d= (d_ (dMEDIAL (cDYEH . (d= (d_ (dMEDIAL (cNYEH . (d= (d_ (dMEDIAL (cTCHEH . (d= (d_ (dMEDIAL (
cTCHEHEH . (d= (d_ (dMEDIAL (cDDAHAL . (d= (cDAHAL . (d= (cDUL . (d= (cDDAL . (d= (cJEH . (d= (
cRREH . (d= (cKEHEH . (d= (d_ (dMEDIAL (cGAF . (d= (d_ (dMEDIAL (cGUEH . (d= (d_ (dMEDIAL (
cNGOEH . (d= (d_ (dMEDIAL (cNOON GHUNNA . (e= (cRNOON . (d= (d_ (dMEDIAL (cHEH $ YEH , . (g= (
dGOAL . (e= (e_ (eMEDIAL (dDOACHASHMEE . (e= (e_ (eMEDIAL (cYEH BARREE . (e= (e$ HAMZA , . (h= (
bn DOT ,d<cTWO DOTS ,e<c| DOTS ,e<ePOINTING u ,g<cFOUR DOTS ,e<c: ? BAR <cTWO DOTS VERTICALLY ,f<
cRINGc& TAH ,e<cWASLA ,"⟩,
  ⟨0xfbd3, "aARABIC ! NG . (d= (d_ (dMEDIAL (cU . (d= (cOE . (d= (cYU . (d= (cU $ HAMZA , . (
cVE . (d= (cKIRGHIZ OE . (e= (dYU . (e= (cE . (d= (d_ (dMEDIAL (
cUIGHUR KAZAKH KIRGHIZ ALEF MAKSURA _ (hMEDIAL (bLIGATURE YEH $ HAMZA , $ ALEF . (i= (hAE . (i= (
hWAW . (i= (hU . (i= (hOE . (i= (hYU . (i= (hE . (i= (i_ (
cUIGHUR KIRGHIZ YEH $ HAMZA , $ ALEF MAKSURA . (l= (l_ (b! FARSI YEH . (e= (e_ (eMEDIAL (
bLIGATURE YEH $ HAMZA , $ JEEM . (hHAH . (hMEEM . (hALEF MAKSURA . (hYEH . (cBEH $ JEEM . (
eHAH . (eKHAH . (eMEEM . (eALEF MAKSURA . (eYEH . (cTEH $ JEEM . (eHAH . (eKHAH . (eMEEM . (
eALEF MAKSURA . (eYEH . (cTHEH $ JEEM . (eMEEM . (eALEF MAKSURA . (eYEH . (cJEEM $ HAH . (
eMEEM . (cHAH $ JEEM . (eMEEM . (cKHAH $ JEEM . (eHAH . (eMEEM . (cSEEN $ JEEM . (eHAH . (
eKHAH . (eMEEM . (cSAD $ HAH . (eMEEM . (cDAD $ JEEM . (eHAH . (eKHAH . (eMEEM . (cTAH $ HAH . (
eMEEM . (cZAH $ MEEM . (cAIN $ JEEM . (eMEEM . (cGHAIN $ JEEM . (eMEEM . (cFEH $ JEEM . (eHAH . (
eKHAH . (eMEEM . (eALEF MAKSURA . (eYEH . (cQAF $ HAH . (eMEEM . (eALEF MAKSURA . (eYEH . (
cKAF $ ALEF . (eJEEM . (eHAH . (eKHAH . (eLAM . (eMEEM . (eALEF MAKSURA . (eYEH . (
cLAM $ JEEM . (eHAH . (eKHAH . (eMEEM . (eALEF MAKSURA . (eYEH . (cMEEM $ JEEM . (eHAH . (
eKHAH . (eMEEM . (eALEF MAKSURA . (eYEH . (cNOON $ JEEM . (eHAH . (eKHAH . (eMEEM . (
eALEF MAKSURA . (eYEH . (cHEH $ JEEM . (eMEEM . (eALEF MAKSURA . (eYEH . (cYEH $ JEEM . (eHAH . (
eKHAH . (eMEEM . (eALEF MAKSURA . (eYEH . (cTHAL $ SUPERSCRIPT ALEF . (
cREH $ SUPERSCRIPT ALEF . (cALEF MAKSURA $ SUPERSCRIPT ALEF . (cSHADDA $ DAMMATAN . (
eKASRATAN . (eFATHA . (eDAMMA . (eKASRA . (eSUPERSCRIPT ALEF . (cYEH $ HAMZA , $ REH = (hZAIN = (
hMEEM = (hNOON = (hALEF MAKSURA = (hYEH = (cBEH $ REH = (eZAIN = (eMEEM = (eNOON = (
eALEF MAKSURA = (eYEH = (cTEH $ REH = (eZAIN = (eMEEM = (eNOON = (eALEF MAKSURA = (eYEH = (
cTHEH $ REH = (eZAIN = (eMEEM = (eNOON = (eALEF MAKSURA = (eYEH = (cFEH $ ALEF MAKSURA = (
eYEH = (cQAF $ ALEF MAKSURA = (eYEH = (cKAF $ ALEF = (eLAM = (eMEEM = (eALEF MAKSURA = (eYEH = (
cLAM $ MEEM = (eALEF MAKSURA = (eYEH = (cMEEM $ ALEF = (eMEEM = (cNOON $ REH = (eZAIN = (
eMEEM = (eNOON = (eALEF MAKSURA = (eYEH = (cALEF MAKSURA $ SUPERSCRIPT ALEF = (cYEH $ REH = (
eZAIN = (eMEEM = (eNOON = (eALEF MAKSURA = (eYEH = (eHAMZA , $ JEEM _ (hHAH _ (hKHAH _ (hMEEM _ (
hHEH _ (cBEH $ JEEM _ (eHAH _ (eKHAH _ (eMEEM _ (eHEH _ (cTEH $ JEEM _ (eHAH _ (eKHAH _ (
eMEEM _ (eHEH _ (cTHEH $ MEEM _ (cJEEM $ HAH _ (eMEEM _ (cHAH $ JEEM _ (eMEEM _ (cKHAH $ JEEM _ (
eMEEM _ (cSEEN $ JEEM _ (eHAH _ (eKHAH _ (eMEEM _ (cSAD $ HAH _ (eKHAH _ (eMEEM _ (
cDAD $ JEEM _ (eHAH _ (eKHAH _ (eMEEM _ (cTAH $ HAH _ (cZAH $ MEEM _ (cAIN $ JEEM _ (eMEEM _ (
cGHAIN $ JEEM _ (eMEEM _ (cFEH $ JEEM _ (eHAH _ (eKHAH _ (eMEEM _ (cQAF $ HAH _ (eMEEM _ (
cKAF $ JEEM _ (eHAH _ (eKHAH _ (eLAM _ (eMEEM _ (cLAM $ JEEM _ (eHAH _ (eKHAH _ (eMEEM _ (
eHEH _ (cMEEM $ JEEM _ (eHAH _ (eKHAH _ (eMEEM _ (cNOON $ JEEM _ (eHAH _ (eKHAH _ (eMEEM _ (
eHEH _ (cHEH $ JEEM _ (eMEEM _ (eSUPERSCRIPT ALEF _ (cYEH $ JEEM _ (eHAH _ (eKHAH _ (eMEEM _ (
eHEH _ (eHAMZA , $ MEEM MEDIAL (hHEH MEDIAL (cBEH $ MEEM MEDIAL (eHEH MEDIAL (
cTEH $ MEEM MEDIAL (eHEH MEDIAL (cTHEH $ MEEM MEDIAL (eHEH MEDIAL (cSEEN $ MEEM MEDIAL (
eHEH MEDIAL (cSHEEN $ MEEM MEDIAL (eHEH MEDIAL (cKAF $ LAM MEDIAL (eMEEM MEDIAL (
cLAM $ MEEM MEDIAL (cNOON $ MEEM MEDIAL (eHEH MEDIAL (cYEH $ MEEM MEDIAL (eHEH MEDIAL (
cSHADDA $ FATHA MEDIAL (eDAMMA MEDIAL (eKASRA MEDIAL (cTAH $ ALEF MAKSURA . (eYEH . (
cAIN $ ALEF MAKSURA . (eYEH . (cGHAIN $ ALEF MAKSURA . (eYEH . (cSEEN $ ALEF MAKSURA . (eYEH . (
cSHEEN $ ALEF MAKSURA . (eYEH . (cHAH $ ALEF MAKSURA . (eYEH . (cJEEM $ ALEF MAKSURA . (eYEH . (
cKHAH $ ALEF MAKSURA . (eYEH . (cSAD $ ALEF MAKSURA . (eYEH . (cDAD $ ALEF MAKSURA . (eYEH . (
cSHEEN $ JEEM . (eHAH . (eKHAH . (eMEEM . (eREH . (cSEEN $ REH . (cSAD $ REH . (cDAD $ REH . (
cTAH $ ALEF MAKSURA = (eYEH = (cAIN $ ALEF MAKSURA = (eYEH = (cGHAIN $ ALEF MAKSURA = (eYEH = (
cSEEN $ ALEF MAKSURA = (eYEH = (cSHEEN $ ALEF MAKSURA = (eYEH = (cHAH $ ALEF MAKSURA = (eYEH = (
cJEEM $ ALEF MAKSURA = (eYEH = (cKHAH $ ALEF MAKSURA = (eYEH = (cSAD $ ALEF MAKSURA = (eYEH = (
cDAD $ ALEF MAKSURA = (eYEH = (cSHEEN $ JEEM = (eHAH = (eKHAH = (eMEEM = (eREH = (cSEEN $ REH = (
cSAD $ REH = (cDAD $ REH = (cSHEEN $ JEEM _ (eHAH _ (eKHAH _ (eMEEM _ (cSEEN $ HEH _ (
cSHEEN $ HEH _ (cTAH $ MEEM _ (cSEEN $ JEEM MEDIAL (eHAH MEDIAL (eKHAH MEDIAL (
cSHEEN $ JEEM MEDIAL (eHAH MEDIAL (eKHAH MEDIAL (cTAH $ MEEM MEDIAL (cZAH $ MEEM MEDIAL (
cALEF $ FATHATAN = (f. (aORNATE ; PARENTHESISb+ PARENTHESISaARABIC LIGATURE RAHIMAHU ALLAAH
cRADI ALLAAHU ANHeANHAAeANHUMeANHUMAAeANHUNNAcSALLALLAAHU ALAYHI WA-AALIHcALAYHI AS-SALAAM
cALAYHIM AS-SALAAMcALAYHIMAA AS-SALAAMcALAYHI AS-SALAATU WAS-SALAAMcQUDDISA SIRRAH
cSALLALLAHU ALAYHI WAAALIHEE WA-SALLAMcALAYHAA AS-SALAAMcTABAARAKA WA-TAAALAAcRAHIMAHUM ALLAAH
cTEH $ JEEM $ MEEM _ (eHAH $ JEEM = (h_ (gMEEM _ (eKHAH $ MEEM _ (eMEEM $ JEEM _ (gHAH _ (
gKHAH _ (cJEEM $ MEEM $ HAH = (h_ (cHAH $ MEEM $ YEH = (gALEF MAKSURA = (cSEEN $ HAH $ JEEM _ (
eJEEM $ HAH _ (gALEF MAKSURA = (eMEEM $ HAH = (h_ (gJEEM _ (gMEEM = (h_ (cSAD $ HAH $ HAH = (h_ (
eMEEM $ MEEM = (cSHEEN $ HAH $ MEEM = (h_ (eJEEM $ YEH = (eMEEM $ KHAH = (h_ (gMEEM = (h_ (
cDAD $ HAH $ ALEF MAKSURA = (eKHAH $ MEEM = (h_ (cTAH $ MEEM $ HAH = (h_ (gMEEM _ (gYEH = (
cAIN $ JEEM $ MEEM = (eMEEM $ MEEM = (h_ (gALEF MAKSURA = (cGHAIN $ MEEM $ MEEM = (gYEH = (
gALEF MAKSURA = (cFEH $ KHAH $ MEEM = (h_ (cQAF $ MEEM $ HAH = (gMEEM = (cLAM $ HAH $ MEEM = (
gYEH = (gALEF MAKSURA = (eJEEM $ JEEM _ (h= (eKHAH $ MEEM = (h_ (eMEEM $ HAH = (h_ (
cMEEM $ HAH $ JEEM _ (gMEEM _ (gYEH = (eJEEM $ HAH _ (gMEEM _ (eKHAH $ JEEM _ (gMEEM _ ("⟩,
  ⟨0xfd92, "aARABIC LIGATURE MEEM $ JEEM $ KHAH _ (cHEH $ MEEM $ JEEM _ (gMEEM _ (
cNOON $ HAH $ MEEM _ (gALEF MAKSURA = (eJEEM $ MEEM = (h_ (gALEF MAKSURA = (eMEEM $ YEH = (
gALEF MAKSURA = (cYEH $ MEEM $ MEEM = (h_ (cBEH $ KHAH $ YEH = (cTEH $ JEEM $ YEH = (
gALEF MAKSURA = (eKHAH $ YEH = (gALEF MAKSURA = (eMEEM $ YEH = (gALEF MAKSURA = (
cJEEM $ MEEM $ YEH = (eHAH $ ALEF MAKSURA = (eMEEM $ ALEF MAKSURA = (
cSEEN $ KHAH $ ALEF MAKSURA = (cSAD $ HAH $ YEH = (cSHEEN $ HAH $ YEH = (cDAD $ HAH $ YEH = (
cLAM $ JEEM $ YEH = (eMEEM $ YEH = (cYEH $ HAH $ YEH = (eJEEM $ YEH = (eMEEM $ YEH = (
cMEEM $ MEEM $ YEH = (cQAF $ MEEM $ YEH = (cNOON $ HAH $ YEH = (cQAF $ MEEM $ HAH _ (
cLAM $ HAH $ MEEM _ (cAIN $ MEEM $ YEH = (cKAF $ MEEM $ YEH = (cNOON $ JEEM $ HAH _ (
cMEEM $ KHAH $ YEH = (cLAM $ JEEM $ MEEM _ (cKAF $ MEEM $ MEEM = (cLAM $ JEEM $ MEEM = (
cNOON $ JEEM $ HAH = (cJEEM $ HAH $ YEH = (cHAH $ JEEM $ YEH = (cMEEM $ JEEM $ YEH = (
cFEH $ MEEM $ YEH = (cBEH $ HAH $ YEH = (cKAF $ MEEM $ MEEM _ (cAIN $ JEEM $ MEEM _ (
cSAD $ MEEM $ MEEM _ (cSEEN $ KHAH $ YEH = (cNOON $ JEEM $ YEH = ("⟩,
  ⟨0xfdcf, "aARABIC LIGATURE SALAAMUHU ALAYNAA"⟩,
  ⟨0xfdf0, "aARABIC LIGATURE SALLA USED AS KORANIC STOP * . (cQALA USED AS KORANIC STOP * . (
cALLAH . (cAKBAR . (cMOHAMMAD . (cSALAM . (cRASOUL . (cALAYHE . (cWASALLAM . (cSALLA . (
cSALLALLAHOU ALAYHE WASALLAMcJALLAJALALOUHOUaRIAL *aARABIC LIGATURE BISMILLAH AR-RAHMAN AR-RAHEEM
cSUBHAANAHU WA TAAALAAcAZZA WA JALLaVARIATION SELECTOR-1zzzzzzzzbSELECTOR-10zzzzzz
aPRESENTATION ( FOR ? COMMAeIDEOGRAPHIC COMMAfFULL STOPeCOLONeSEMICOLONeEXCLAMATION reQUESTION r
e; q LENTICULAR we+ q LENTICULAR BRAKCETep ELLIPSIS"⟩,
  ⟨0xfe20, "aCOMBINING LIGATURE ; HALFc+ HALFb: TILDE ; HALFd+ HALFbMACRON ; HALFc+ HALF
bCONJOINING MACRONbLIGATURE ; HALF <c+ HALF <bTILDE ; HALF <c+ HALF <bMACRON ; HALF <c+ HALF <
bCONJOINING MACRON <bCYRILLIC TITLO ; HALFd+ HALFaPRESENTATION ( FOR ? TWO DOT LEADEReEM DASH
eEN DASHeLOW LINEeWAVY LOW LINEe; PARENTHESISe+ PARENTHESISe; CURLY we+ CURLY w
e; TORTOISE SHELL we+ TORTOISE SHELL we; o LENTICULAR we+ o LENTICULAR we; : ANGLE we+ : ANGLE w
e; ANGLE we+ ANGLE we; CORNER we+ CORNER we; q CORNER we+ q CORNER waSESAME DOTaq SESAME DOT
aPRESENTATION ( FOR ? ; SQUARE we+ SQUARE waDASHED OVERLINEaCENTRELINE OVERLINEaWAVY OVERLINE
a: WAVY OVERLINEaDASHED LOW LINEaCENTRELINE LOW LINEaWAVY LOW LINEa& COMMAbIDEOGRAPHIC COMMA
bFULL STOP"⟩,
  ⟨0xfe54, "a& SEMICOLONbCOLONbQUESTION rbEXCLAMATION rbEM DASHb; PARENTHESISb+ PARENTHESIS
b; CURLY wb+ CURLY wb; TORTOISE SHELL wb+ TORTOISE SHELL wbNUMBER *bAMPERSANDbASTERISKbPLUS *
bHYPHEN-MINUSbLESS-THAN *bGREATER-THAN *bEQUALS *"⟩,
  ⟨0xfe68, "a& REVERSE SOLIDUSbDOLLAR *bPERCENT *bCOMMERCIAL AT"⟩,
  ⟨0xfe70, "aARABIC FATHATAN . (bTATWEEL $ FATHATAN ,bDAMMATAN . (bTAIL FRAGMENTbKASRATAN . ("⟩,
  ⟨0xfe76, "aARABIC FATHA . (cMEDIAL (bDAMMA . (cMEDIAL (bKASRA . (cMEDIAL (bSHADDA . (cMEDIAL (
bSUKUN . (cMEDIAL (b! HAMZA . (cALEF $ MADDA , . (g= (eHAMZA , . (g= (cWAW $ HAMZA , . (g= (
cALEF $ HAMZA < . (g= (cYEH $ HAMZA , . (g= (g_ (gMEDIAL (cALEF . (d= (cBEH . (d= (d_ (dMEDIAL (
cTEH MARBUTA . (e= (d. (d= (d_ (dMEDIAL (cTHEH . (d= (d_ (dMEDIAL (cJEEM . (d= (d_ (dMEDIAL (
cHAH . (d= (d_ (dMEDIAL (cKHAH . (d= (d_ (dMEDIAL (cDAL . (d= (cTHAL . (d= (cREH . (d= (cZAIN . (
d= (cSEEN . (d= (d_ (dMEDIAL (cSHEEN . (d= (d_ (dMEDIAL (cSAD . (d= (d_ (dMEDIAL (cDAD . (d= (
d_ (dMEDIAL (cTAH . (d= (d_ (dMEDIAL (cZAH . (d= (d_ (dMEDIAL (cAIN . (d= (d_ (dMEDIAL (
cGHAIN . (d= (d_ (dMEDIAL (cFEH . (d= (d_ (dMEDIAL (cQAF . (d= (d_ (dMEDIAL (cKAF . (d= (d_ (
dMEDIAL (cLAM . (d= (d_ (dMEDIAL (cMEEM . (d= (d_ (dMEDIAL (cNOON . (d= (d_ (dMEDIAL (cHEH . (
d= (d_ (dMEDIAL (cWAW . (d= (cALEF MAKSURA . (e= (cYEH . (d= (d_ (dMEDIAL (
bLIGATURE LAM $ ALEF $ MADDA , . (i= (gHAMZA , . (i= (h< . (i= (f. (f= ("⟩,
  ⟨0xfeff, "aZERO WIDTH NO-BREAK SPACE"⟩,
  ⟨0xff01, "aFULLWIDTH EXCLAMATION rbQUOTATION rbNUMBER *bDOLLAR *bPERCENT *bAMPERSANDbAPOSTROPHE
b; PARENTHESISb+ PARENTHESISbASTERISKbPLUS *bCOMMAbHYPHEN-MINUSbFULL STOPbSOLIDUSbDIGIT ZEROcONE
cTWOc|cFOURcFIVEcSIXcSEVENcEIGHTcNINEbCOLONbSEMICOLONbLESS-THAN *bEQUALS *bGREATER-THAN *
bQUESTION rbCOMMERCIAL ATbLATIN % ! Azzzzzzzzzzzzzzzzzzzzzzzzzb; SQUARE wbREVERSE SOLIDUS
b+ SQUARE wbx ACCENTbLOW LINEbGRAVE ACCENTbLATIN & ! Azzzzzzzzzzzzzzzzzzzzzzzzzb; CURLY wb? LINE
b+ CURLY wbTILDEb; q PARENTHESISb+ q PARENTHESISaHALFWIDTH IDEOGRAPHIC FULL STOPb; CORNER w
b+ CORNER wbIDEOGRAPHIC COMMAbKATAKANA s DOTc! WOd& AeIeUeEeOeYAeYUeYOeTU
bKATAKANA-HIRAGANA PROLONGED SOUND rbKATAKANA ! AdIdUdEdOdKAdKIdKUdKEdKOdSAdSIdSUdSEdSOdTAdTIdTU
dTEdTOdNAdNIdNUdNEdNOdHAdHIdHUdHEdHOdMAdMIdMUdMEdMOdYAdYUdYOdRAdRIdRUdREdROdWAdNcVOICED SOUND r
cSEMI-VOICED SOUND rbHANGUL FILLERc! KIYEOKdSSANGKIYEOKdKIYEOK-SIOSdNIEUNdNIEUN-CIEUCdNIEUN-HIEUH
dTIKEUTdSSANGTIKEUTdRIEULdRIEUL-KIYEOKdRIEUL-MIEUMdRIEUL-PIEUPdRIEUL-SIOSdRIEUL-THIEUTH
dRIEUL-PHIEUPHdRIEUL-HIEUHdMIEUMdPIEUPdSSANGPIEUPdPIEUP-SIOSdSIOSdSSANGSIOSdIEUNGdCIEUC
dSSANGCIEUCdCHIEUCHdKHIEUKHdTHIEUTHdPHIEUPHdHIEUH"⟩,
  ⟨0xffc2, "aHALFWIDTH HANGUL ! AdAEdYAdYAEdEOdE"⟩,
  ⟨0xffca, "aHALFWIDTH HANGUL ! YEOdYEdOdWAdWAEdOE"⟩,
  ⟨0xffd2, "aHALFWIDTH HANGUL ! YOdUdWEOdWEdWIdYU"⟩,
  ⟨0xffda, "aHALFWIDTH HANGUL ! EUdYIdI"⟩,
  ⟨0xffe0, "aFULLWIDTH CENT *bPOUND *bNOT *bMACRONbBROKEN BARbYEN *bWON *"⟩,
  ⟨0xffe8, "aHALFWIDTH FORMS LIGHT ?b^ )bUPWARDS )b/ )bu )bo SQUAREbq CIRCLE"⟩,
  ⟨0xfff9, "aINTERLINEAR ANNOTATION ANCHORcSEPARATORcTERMINATORaOBJECT REPLACEMENT CHARACTER
aREPLACEMENT CHARACTER"⟩]

end CallTree.Text.CharName
