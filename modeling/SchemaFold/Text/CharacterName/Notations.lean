/-! Names of characters: music, mathematics and sign writing. -/

namespace SchemaFold.Text

def notationNames : String :=
"1CF00:ZNAMENNY COMBINING MARK GORAZDO NIZKO S KRYZHEM ON LEFT|cNIZKOd|cTSATAb|cGORAZDO NIZKOb
cNIZKOb|cSREDNEb|cMALO POVYSHEb|cPOVYSHEb|cVYSOKOb|cMALO POVYSHE S KHOKHLOMb|cPOVYSHEd|cVYSOKOd
cGORAZDO NIZKO S KRYZHEM ON RIGHT|cNIZKOd|cTSATAb|cGORAZDO NIZKOb|cNIZKOb|cSREDNEb|cMALO POVYSHEb
cPOVYSHEb|cVYSOKOb|cMALO POVYSHE S KHOKHLOMb|cPOVYSHEd|cVYSOKOd|cTSATA S KRYZHEM|cMALO POVYSHEb
cSTRANNO MALO POVYSHE|cPOVYSHE S KRYZHEM|dSTRANNO|cVYSOKO S KRYZHEM|cMALO POVYSHE STRANNO
cGORAZDO VYSOKO|cZELO|cON|cRAVNO|cTIKHAYA|cBORZAYA|cUDARKA|cPODVERTKA|cLOMKA|cKUPNAYA|cKACHKA
cZEVOK|cSKOBA|cRAZSEKA|cKRYZH ON LEFT|1CF30:bTONAL RANGE MARK MRACHNO|eSVETLO|eTRESVETLO
bMARK ZADERZHKA|cDEMESTVENNYa|cOTSECHKA|cPODCHASHIE|dWITH VERTICAL STROKE|cCHASHKA|dPOLNAYA
cOBLACHKO|cSOROCHYA NOZHKA|cTOCHKA|cDVOETOCHIE|bATTACHING VERTICAL OMET|bMARK CURVEDa|cKRYZH
bLOWER TONAL RANGE INDICATOR|aPRIZNAK MODIFIER LEVEL-2|+1|cDIRECTION FLIP|cKRYZH|cROG
1CF50:aNEUME KRYUK|cTIKHY|bPARAKLIT|bDVA V CHELNU|bKLYUCH|bZANOZHEK|bSTOPITSA|cS OCHKOM|bPEREVODKA
cNEPOSTOYANNAYA|bSTOPITSA WITH SOROCHYA NOZHKA|bCHELYUSTKA|bPALKA|bZAPYATAYA|bGOLUBCHIK BORZY
cTIKHY|cMRACHNY|cSVETLY|cTRESVETLY|bVRAKHIYA PROSTAYA|cMRACHNAYA|cSVETLAYA|cTRESVETLAYA
cKLYUCHEVAYA PROSTAYA|dMRACHNAYA|dSVETLAYA|dTRESVETLAYA|bDOUBLE ZAPYATAYA|bREVERSED CHELYUSTKA
bDERBITSA|bKHAMILO|bCHASHKA|bPODCHASHIE|bSKAMEYTSA MRACHNAYA|cSVETLAYA|cTRESVETLAYA|cTIKHAYA
bDEMESTVENNY KLYUCH|bSKAMEYTSA KLYUCHEVAYA SVETLAYA|cKLYUCHENEPOSTOYANNAYA|cKLYUCHEVAYA TIKHAYA
cDVOECHELNAYA PROSTAYA|dSVETLAYA|dNEPOSTOYANNAYA|dKLYUCHEVAYA|bSLOZHITIE|cS ZAPYATOY|cZAKRYTOE
cS KRYZHEM|bKRYZH|bROG|bFITA|bKOBYLA|bZMEYTSA|bSTATYA|cS ZAPYATOY|dKRYZHEM|dZAPYATOY Ia
dKRYZHEM I ZAPYATOY|cZAKRYTAYA|dS ZAPYATOY|cS ROGOM|dDVUMYA ZAPYATYMI|dZAPYATOY I PODCHASHIEM
bPOLKULIZMY|bSTATYA NEPOSTOYANNAYA|bSTRELA PROSTAYA|cMRACHNOTIKHAYA|cKRYZHEVAYA|cPOLUPOVODNAYA
cPOVODNAYA|cNEPOSTOYANNAYA|cKLYUCHEPOVODNAYA|cKLYUCHENEPOSTOYANNAYA|cTIKHAYA PUTNAYA|cDVOECHELNAYA
cDVOECHELNOKRYZHEVAYA|cDVOECHELNOPOVODNAYA|cDVOECHELNAYA KLYUCHEVAYA|cDVOECHELNOPOVODNAYAa
cGROMNAYA WITH SINGLE ZAPYATAYA|cGROMOPOVODNAYAc|cGROMNAYA|cGROMOPOVODNAYA|dWITH DOUBLE ZAPYATAYA
cGROMOKRYZHEVAYA|dPOVODNAYA|bMECHIK|cPOVODNY|cKLYUCHEVOY|cKLYUCHEPOVODNY|cKLYUCHENEPOSTOYANNY
bSTRELA TRYASOGLASNAYA|cTRYASOPOVODNAYA|cTRYASOSTRELNAYA|bOSOKA|cSVETLAYA|cTRESVETLAYA
cKRYUKOVAYA SVETLAYA|cKLYUCHEVAYAa|dNEPOSTOYANNAYA|bSTRELA KRYUKOVAYA|dPOVODNAYA
dGROMNAYA WITH SINGLE ZAPYATAYA|dGROMOPOVODNAYAc|dGROMNAYA|dGROMOPOVODNAYA|eWITH DOUBLE ZAPYATAYA
dGROMOKRYZHEVAYA|ePOVODNAYA|dTRYASKA|bKUFISMA|bOBLAKO|bDUDA|bNEMKA|bPAUK
1D000:BYZANTINE MUSICAL SYMBOL PSILI|cDASEIA|cPERISPOMENI|cOXEIA EKFONITIKON|dDIPLI
cVAREIA EKFONITIKON|dDIPLI|cKATHISTI|cSYRMATIKI|cPARAKLITIKI|cYPOKRISIS|dDIPLI|cKREMASTI
cAPESO EKFONITIKON|cEXOa|cTELEIA|cKENTIMATA|cAPOSTROFOS|dDIPLI|cSYNEVMA|cTHITA|cOLIGON ARCHAION
cGORGONa|cPSILON|cCHAMILON|cVATHY|cISON ARCHAION|cKENTIMAa|cKENTIMATAa|cSAXIMATA|cPARICHON
cSTAVROS APODEXIA|cOXEIAI ARCHAION|cVAREIAIa|cAPODERMAa|cAPOTHEMA|cKLASMA|cREVMA|cPIASMA ARCHAION
cTINAGMA|cANATRICHISMA|cSEISMA|cSYNAGMA ARCHAION|dMETA STAVROU|cOYRANISMA ARCHAION|cTHEMA|cLEMOI
cDYO|cTRIA|cTESSERA|cKRATIMATA|cAPESO EXO NEO|cFTHORA ARCHAION|cIMIFTHORA|cTROMIKON ARCHAION
cKATAVA TROMIKON|cPELASTON|cPSIFISTON|cKONTEVMA|cCHOREVMA ARCHAION|cRAPISMA|cPARAKALESMA ARCHAION
cPARAKLITIKIa|cICHADIN|cNANA|cPETASMA|cKONTEVMA ALLO|cTROMIKONa|cSTRAGGISMATA|cGRONTHISMATA
cISON NEO|cOLIGONa|cOXEIAa|cPETASTI|cKOUFISMA|cPETASTOKOUFISMA|cKRATIMOKOUFISMA|cPELASTON NEO
cKENTIMATA NEO ANO|cKENTIMAb|cYPSILI|cAPOSTROFOS NEO|cAPOSTROFOI SYNDESMOSa|cYPORROI
cKRATIMOYPORROON|cELAFRON|cCHAMILI|cMIKRON ISON|cVAREIA NEO|cPIASMAa|cPSIFISTONa|cOMALON
cANTIKENOMA|cLYGISMA|cPARAKLITIKI NEO|cPARAKALESMAa|cETERON PARAKALESMA|cKYLISMA|cANTIKENOKYLISMA
cTROMIKON NEO|cEKSTREPTON|cSYNAGMA NEO|cSYRMA|cCHOREVMA NEO|cEPEGERMA|cSEISMA NEO|cXIRON KLASMA
cTROMIKOPSIFISTON|cPSIFISTOLYGISMA|cTROMIKOLYGISMA|cTROMIKOPARAKALESMA|cPSIFISTOPARAKALESMA
cTROMIKOSYNAGMA|cPSIFISTOSYNAGMA|cGORGOSYNTHETON|cARGOSYNTHETON|cETERONa|cOYRANISMA NEO
cTHEMATISMOS ESO|dEXO|cTHEMA APLOUN|cTHES KAI APOTHES|cKATAVASMA|cENDOFONON|cYFEN KATO|dANO
cSTAVROS|cKLASMA ANO|cDIPLI ARCHAION|cKRATIMAa|dALLO|dNEO|cAPODERMAa|cAPLI|cDIPLI|cTRIPLI
cTETRAPLI|cKORONIS|cLEIMMA ENOS CHRONOU|dDYO CHRONON|dTRIONa|dTESSARONa|dIMISEOS CHRONOU
cGORGON NEO ANO|dPARESTIGMENON ARISTERA|eDEXIA|cDIGORGON|dPARESTIGMENON ARISTERA KATO|fANO|eDEXIA
cTRIGORGON|cARGON|cIMIDIARGON|cDIARGON|cAGOGI POLI ARGI|dARGOTERI|dARGI|dMETRIA|dMESI|dGORGI
dGORGOTERI|dPOLI GORGI|cMARTYRIA PROTOS ICHOS|dALLIb|dDEYTEROSa|dALLIb|dTRITOSa|dTRIFONIAS
dTETARTOS ICHOS|eLEGETOSa|dLEGETOSa|dPLAGIOSa|cISAKIA TELOUS ICHIMATOS|cAPOSTROFOIb
cFANEROSIS TETRAFONIAS|dMONOFONIAS|dDIFONIAS|cMARTYRIA VARYS ICHOS|dPROTOVARYSa|dPLAGIOS TETARTOSa
cGORTHMIKON N APLOUN|eDIPLOUN|cENARXIS KAI FTHORA VOU|cIMIFONON|cIMIFTHORON
cFTHORA ARCHAION DEYTEROU ICHOU|dDIATONIKI PA|eNANA|dNAOS ICHOS|dDIATONIKI DI|dSKLIRON DIATONONa
dDIATONIKI KE|eZO|eNI KATO|fANO|dMALAKON CHROMA DIFONIAS|fMONOFONIAS|cFHTORA SKLIRON CHROMA VASIS
cFTHORA SKLIRON CHROMA SYNAFI|dNENANO|cCHROA ZYGOS|dKLITON|dSPATHI|cFTHORA I YFESIS TETARTIMORION
dENARMONIOS ANTIFONIA|cYFESIS TRITIMORION|cDIESISa|dTETARTIMORION|dAPLI DYO DODEKATA
dMONOGRAMMOS TESSERAa|dDIGRAMMOS EXa|dTRIGRAMMOS OKTOa|cYFESIS APLI DYOa|dMONOGRAMMOS TESSERAa
dDIGRAMMOS EXa|dTRIGRAMMOS OKTOa|cGENIKI DIESIS|dYFESIS|cDIASTOLI APLI MIKRI|eMEGALI|dDIPLI
dTHESEOS|cSIMANSISa|eDISIMOU|eTRISIMOU|eTETRASIMOU|dARSEOS|eDISIMOU|eTRISIMOU|eTETRASIMOU
cDIGRAMMA GG|cDIFTOGGOS OU|cSTIGMA|cARKTIKO PA|dVOU|dGA|dDI|dKE|dZO|dNI|cKENTIMATA NEO MESO
cKENTIMAb|cKENTIMATA NEO KATO|cKENTIMAb|cKLASMAa|cGORGON NEOa|1D100:MUSICAL SYMBOL SINGLE BARLINE
bDOUBLEa|bFINALa|bREVERSEb|bDASHEDa|bSHORTa|bLEFT REPEAT SIGN|bRIGHTb|bREPEAT DOTS|bDAL SEGNO
bDA CAPO|bSEGNO|bCODA|bREPEATED FIGURE-1|+2|bFERMATA|cBELOW|bBREATH MARK|bCAESURA|bBRACE|bBRACKET
bONE-LINE STAFF|bTWO-LINEa|bTHREE-LINEa|bFOUR-LINEa|bFIVE-LINEa|bSIX-LINEa|bSIX-STRING FRETBOARD
bFOUR-STRINGa|bG CLEF|dOTTAVA ALTA|eBASSA|bC CLEF|bFa|dOTTAVA ALTA|eBASSA|bDRUM CLEF-1|+1
1D129:bMULTIPLE MEASURE REST|bDOUBLE SHARP|cFLAT|bFLAT UP|cDOWN|bNATURAL UP|cDOWN|bSHARP UP|cDOWN
bQUARTER TONE SHARP|dFLAT|bCOMMON TIME|bCUTa|bOTTAVA ALTA|cBASSA|bQUINDICESIMA ALTA|cBASSA
bMULTI REST|bWHOLEa|bHALFa|bQUARTERa|bEIGHTHa|bSIXTEENTHa|bTHIRTY-SECONDa|bSIXTY-FOURTHa
bONE HUNDRED TWENTY-EIGHTHa|bX NOTEHEAD|bPLUSa|bCIRCLE Xa|bSQUARE NOTEHEAD WHITE|dBLACK
bTRIANGLE NOTEHEAD UP WHITE|eBLACK|dLEFT WHITE|eBLACK|dRIGHT WHITE|eBLACK|dDOWN WHITE|eBLACK
dUP RIGHT WHITE|fBLACK|bMOON NOTEHEAD WHITE|dBLACK|bTRIANGLE-ROUND NOTEHEAD DOWN WHITE|eBLACK
bPARENTHESIS NOTEHEAD|bVOIDa|bNOTEHEAD BLACK|bNULL NOTEHEAD|bCLUSTER NOTEHEAD WHITE|dBLACK|bBREVE
bWHOLE NOTE|bHALFa|bQUARTERa|bEIGHTHa|bSIXTEENTHa|bTHIRTY-SECONDa|bSIXTY-FOURTHa
bONE HUNDRED TWENTY-EIGHTHa|bCOMBINING STEM|cSPRECHGESANGa|cTREMOLO-1|+2|bFINGERED TREMOLO-1|+2
bCOMBINING AUGMENTATION DOT|cFLAG-1|+4|bBEGIN BEAM|bENDa|bBEGIN TIE|bENDa|bBEGIN SLUR|bENDa
bBEGIN PHRASE|bENDa|bCOMBINING ACCENT|cSTACCATO|cTENUTO|cSTACCATISSIMO|cMARCATO|cMARCATO-STACCATO
cACCENT-STACCATO|cLOURE|bARPEGGIATO UP|cDOWN|bCOMBINING DOIT|cRIP|cFLIP|cSMEAR|cBEND
cDOUBLE TONGUE|cTRIPLEa|bRINFORZANDO|bSUBITO|bZ|bPIANO|bMEZZO|bFORTE|bCRESCENDO|bDECRESCENDO
bGRACE NOTE SLASH|dNOa|bTR|bTURN|bINVERTEDa|bTURN SLASH|cUP|bORNAMENT STROKE-1|+10|bHAUPTSTIMME
bNEBENSTIMME|bEND OF STIMME|bDEGREE SLASH|bCOMBINING DOWN BOW|cUPa|cHARMONIC|cSNAP PIZZICATO
bPEDAL MARK|cUPa|bHALF PEDALa|bGLISSANDO UP|cDOWN|bWITH FINGERNAILS|bDAMP|cALL|bMAXIMA|bLONGA
bBREVIS|bSEMIBREVIS WHITE|cBLACK|bMINIMA|cBLACK|bSEMIMINIMA WHITE|cBLACK|bFUSA WHITE|cBLACK
bLONGA PERFECTA REST|cIMPERFECTAa|bBREVISa|bSEMIBREVISa|bMINIMAa|bSEMIMINIMAa
bTEMPUS PERFECTUM CUM PROLATIONE PERFECTA|fIMPERFECTA|fPERFECTA DIMINUTION-1
cIMPERFECTUM CUM PROLATIONE PERFECTA|fIMPERFECTA|gDIMINUTION-1|+2|bCROIX|bGREGORIAN C CLEF|cFa
bSQUARE B|bVIRGA|bPODATUS|bCLIVIS|bSCANDICUS|bCLIMACUS|bTORCULUS|bPORRECTUS|cFLEXUS|bSCANDICUSa
bTORCULUS RESUPINUS|bPES SUBPUNCTIS|bKIEVAN C CLEF|cEND OF PIECE|cFINAL NOTE|cRECITATIVE MARK
cWHOLE NOTE|cHALFa|cQUARTER NOTE STEM DOWN|fUP|cEIGHTH NOTE STEM DOWN|fUP|cFLAT SIGN|bSORI|bKORON
1D200:GREEK VOCAL NOTATION SYMBOL-1|+23|cSYMBOL-50|+4|aINSTRUMENTAL NOTATION SYMBOL-1|+1|cSYMBOL-4
+1|cSYMBOL-7|+1|cSYMBOL-11|+3|cSYMBOL-17|+2|cSYMBOL-23|+4|cSYMBOL-29|+1|cSYMBOL-32|cSYMBOL-36|+4
cSYMBOL-42|+1|cSYMBOL-45|cSYMBOL-47|+7|COMBINING GREEK MUSICAL TRISEME|cTETRASEME|cPENTASEME
GREEK MUSICAL LEIMMA|1D2E0:MAYAN NUMERAL ZERO|bONE|bTWO|bTHREE|bFOUR|bFIVE|bSIX|bSEVEN|bEIGHT
bNINE|bTEN|bELEVEN|bTWELVE|bTHIRTEEN|bFOURTEEN|bFIFTEEN|bSIXTEEN|bSEVENTEEN|bEIGHTEEN|bNINETEEN
1D300:MONOGRAM FOR EARTH|DIGRAM FOR HEAVENLYa|bHUMANa|bEARTHLY HEAVEN|cHUMAN|bEARTH
TETRAGRAM FOR CENTRE|bFULL CIRCLE|bMIRED|bBARRIER|bKEEPING SMALL|bCONTRARIETY|bASCENT|bOPPOSITION
bBRANCHING OUT|bDEFECTIVENESS OR DISTORTION|bDIVERGENCE|bYOUTHFULNESS|bINCREASE|bPENETRATION
bREACH|bCONTACT|bHOLDING BACK|bWAITING|bFOLLOWING|bADVANCE|bRELEASE|bRESISTANCE|bEASE|bJOY
bCONTENTION|bENDEAVOUR|bDUTIES|bCHANGE|bDECISIVENESS|bBOLD RESOLUTION|bPACKING|bLEGION|bCLOSENESS
bKINSHIP|bGATHERING|bSTRENGTH|bPURITY|bFULLNESS|bRESIDENCE|bLAW OR MODEL|bRESPONSE|bGOING TO MEET
bENCOUNTERS|bSTOVE|bGREATNESS|bENLARGEMENT|bPATTERN|bRITUAL|bFLIGHT|bVASTNESS OR WASTING
bCONSTANCY|bMEASURE|bETERNITY|bUNITY|bDIMINISHMENT|bCLOSED MOUTH|bGUARDEDNESS|bGATHERING IN
bMASSING|bACCUMULATION|bEMBELLISHMENT|bDOUBT|bWATCH|bSINKING|bINNER|bDEPARTURE|bDARKENING|bDIMMING
bEXHAUSTION|bSEVERANCE|bSTOPPAGE|bHARDNESS|bCOMPLETION|bCLOSURE|bFAILURE|bAGGRAVATION|bCOMPLIANCE
bON THE VERGE|bDIFFICULTIES|bLABOURING|bFOSTERING|1D360:COUNTING ROD UNIT DIGIT ONE|dTWO|dTHREE
dFOUR|dFIVE|dSIX|dSEVEN|dEIGHT|dNINE|bTENS DIGIT ONE|dTWO|dTHREE|dFOUR|dFIVE|dSIX|dSEVEN|dEIGHT
dNINE|IDEOGRAPHIC TALLY MARK ONE|cTWO|cTHREE|cFOUR|cFIVE|TALLY MARK ONE|bFIVE
1D400:MATHEMATICAL BOLD CAPITAL A|cB|cC|cD|cE|cF|cG|cH|cI|cJ|cK|cL|cM|cN|cO|cP|cQ|cR|cS|cT|cU|cV
cW|cX|cY|cZ|bSMALL A|cB|cC|cD|cE|cF|cG|cH|cI|cJ|cK|cL|cM|cN|cO|cP|cQ|cR|cS|cT|cU|cV|cW|cX|cY|cZ
aITALIC CAPITAL A|cB|cC|cD|cE|cF|cG|cH|cI|cJ|cK|cL|cM|cN|cO|cP|cQ|cR|cS|cT|cU|cV|cW|cX|cY|cZ
bSMALL A|cB|cC|cD|cE|cF|cG|1D456:cI|cJ|cK|cL|cM|cN|cO|cP|cQ|cR|cS|cT|cU|cV|cW|cX|cY|cZ
aBOLD ITALIC CAPITAL A|dB|dC|dD|dE|dF|dG|dH|dI|dJ|dK|dL|dM|dN|dO|dP|dQ|dR|dS|dT|dU|dV|dW|dX|dY|dZ
cSMALL A|dB|dC|dD|dE|dF|dG|dH|dI|dJ|dK|dL|dM|dN|dO|dP|dQ|dR|dS|dT|dU|dV|dW|dX|dY|dZ
aSCRIPT CAPITAL A|1D49E:cC|cD|1D4A2:cG|1D4A5:cJ|cK|1D4A9:cN|cO|cP|cQ|1D4AE:cS|cT|cU|cV|cW|cX|cY|cZ
bSMALL A|cB|cC|cD|1D4BB:cF|1D4BD:cH|cI|cJ|cK|cL|cM|cN|1D4C5:cP|cQ|cR|cS|cT|cU|cV|cW|cX|cY|cZ
aBOLD SCRIPT CAPITAL A|dB|dC|dD|dE|dF|dG|dH|dI|dJ|dK|dL|dM|dN|dO|dP|dQ|dR|dS|dT|dU|dV|dW|dX|dY|dZ
cSMALL A|dB|dC|dD|dE|dF|dG|dH|dI|dJ|dK|dL|dM|dN|dO|dP|dQ|dR|dS|dT|dU|dV|dW|dX|dY|dZ
aFRAKTUR CAPITAL A|cB|1D507:cD|cE|cF|cG|1D50D:cJ|cK|cL|cM|cN|cO|cP|cQ|1D516:cS|cT|cU|cV|cW|cX|cY
1D51E:bSMALL A|cB|cC|cD|cE|cF|cG|cH|cI|cJ|cK|cL|cM|cN|cO|cP|cQ|cR|cS|cT|cU|cV|cW|cX|cY|cZ
aDOUBLE-STRUCK CAPITAL A|cB|1D53B:cD|cE|cF|cG|1D540:cI|cJ|cK|cL|cM|1D546:cO|1D54A:cS|cT|cU|cV|cW
cX|cY|1D552:bSMALL A|cB|cC|cD|cE|cF|cG|cH|cI|cJ|cK|cL|cM|cN|cO|cP|cQ|cR|cS|cT|cU|cV|cW|cX|cY|cZ
aBOLD FRAKTUR CAPITAL A|dB|dC|dD|dE|dF|dG|dH|dI|dJ|dK|dL|dM|dN|dO|dP|dQ|dR|dS|dT|dU|dV|dW|dX|dY|dZ
cSMALL A|dB|dC|dD|dE|dF|dG|dH|dI|dJ|dK|dL|dM|dN|dO|dP|dQ|dR|dS|dT|dU|dV|dW|dX|dY|dZ
aSANS-SERIF CAPITAL A|cB|cC|cD|cE|cF|cG|cH|cI|cJ|cK|cL|cM|cN|cO|cP|cQ|cR|cS|cT|cU|cV|cW|cX|cY|cZ
bSMALL A|cB|cC|cD|cE|cF|cG|cH|cI|cJ|cK|cL|cM|cN|cO|cP|cQ|cR|cS|cT|cU|cV|cW|cX|cY|cZ
bBOLD CAPITAL A|dB|dC|dD|dE|dF|dG|dH|dI|dJ|dK|dL|dM|dN|dO|dP|dQ|dR|dS|dT|dU|dV|dW|dX|dY|dZ
cSMALL A|dB|dC|dD|dE|dF|dG|dH|dI|dJ|dK|dL|dM|dN|dO|dP|dQ|dR|dS|dT|dU|dV|dW|dX|dY|dZ
bITALIC CAPITAL A|dB|dC|dD|dE|dF|dG|dH|dI|dJ|dK|dL|dM|dN|dO|dP|dQ|dR|dS|dT|dU|dV|dW|dX|dY|dZ
cSMALL A|dB|dC|dD|dE|dF|dG|dH|dI|dJ|dK|dL|dM|dN|dO|dP|dQ|dR|dS|dT|dU|dV|dW|dX|dY|dZ
bBOLD ITALIC CAPITAL A|eB|eC|eD|eE|eF|eG|eH|eI|eJ|eK|eL|eM|eN|eO|eP|eQ|eR|eS|eT|eU|eV|eW|eX|eY|eZ
dSMALL A|eB|eC|eD|eE|eF|eG|eH|eI|eJ|eK|eL|eM|eN|eO|eP|eQ|eR|eS|eT|eU|eV|eW|eX|eY|eZ
aMONOSPACE CAPITAL A|cB|cC|cD|cE|cF|cG|cH|cI|cJ|cK|cL|cM|cN|cO|cP|cQ|cR|cS|cT|cU|cV|cW|cX|cY|cZ
bSMALL A|cB|cC|cD|cE|cF|cG|cH|cI|cJ|cK|cL|cM|cN|cO|cP|cQ|cR|cS|cT|cU|cV|cW|cX|cY|cZ
aITALIC SMALL DOTLESS I|dJ|1D6A8:aBOLD CAPITAL ALPHA|cBETA|cGAMMA|cDELTA|cEPSILON|cZETA|cETA
cTHETA|cIOTA|cKAPPA|cLAMDA|cMU|cNU|cXI|cOMICRON|cPI|cRHO|cTHETA SYMBOL|cSIGMA|cTAU|cUPSILON|cPHI
cCHI|cPSI|cOMEGA|bNABLA|bSMALL ALPHA|cBETA|cGAMMA|cDELTA|cEPSILON|cZETA|cETA|cTHETA|cIOTA|cKAPPA
cLAMDA|cMU|cNU|cXI|cOMICRON|cPI|cRHO|cFINAL SIGMA|cSIGMA|cTAU|cUPSILON|cPHI|cCHI|cPSI|cOMEGA
bPARTIAL DIFFERENTIAL|bEPSILON SYMBOL|bTHETAa|bKAPPAa|bPHIa|bRHOa|bPIa|aITALIC CAPITAL ALPHA|cBETA
cGAMMA|cDELTA|cEPSILON|cZETA|cETA|cTHETA|cIOTA|cKAPPA|cLAMDA|cMU|cNU|cXI|cOMICRON|cPI|cRHO
cTHETA SYMBOL|cSIGMA|cTAU|cUPSILON|cPHI|cCHI|cPSI|cOMEGA|bNABLA|bSMALL ALPHA|cBETA|cGAMMA|cDELTA
cEPSILON|cZETA|cETA|cTHETA|cIOTA|cKAPPA|cLAMDA|cMU|cNU|cXI|cOMICRON|cPI|cRHO|cFINAL SIGMA|cSIGMA
cTAU|cUPSILON|cPHI|cCHI|cPSI|cOMEGA|bPARTIAL DIFFERENTIAL|bEPSILON SYMBOL|bTHETAa|bKAPPAa|bPHIa
bRHOa|bPIa|aBOLD ITALIC CAPITAL ALPHA|dBETA|dGAMMA|dDELTA|dEPSILON|dZETA|dETA|dTHETA|dIOTA|dKAPPA
dLAMDA|dMU|dNU|dXI|dOMICRON|dPI|dRHO|dTHETA SYMBOL|dSIGMA|dTAU|dUPSILON|dPHI|dCHI|dPSI|dOMEGA
cNABLA|cSMALL ALPHA|dBETA|dGAMMA|dDELTA|dEPSILON|dZETA|dETA|dTHETA|dIOTA|dKAPPA|dLAMDA|dMU|dNU|dXI
dOMICRON|dPI|dRHO|dFINAL SIGMA|dSIGMA|dTAU|dUPSILON|dPHI|dCHI|dPSI|dOMEGA|cPARTIAL DIFFERENTIAL
cEPSILON SYMBOL|cTHETAa|cKAPPAa|cPHIa|cRHOa|cPIa|aSANS-SERIF BOLD CAPITAL ALPHA|dBETA|dGAMMA
dDELTA|dEPSILON|dZETA|dETA|dTHETA|dIOTA|dKAPPA|dLAMDA|dMU|dNU|dXI|dOMICRON|dPI|dRHO|dTHETA SYMBOL
dSIGMA|dTAU|dUPSILON|dPHI|dCHI|dPSI|dOMEGA|cNABLA|cSMALL ALPHA|dBETA|dGAMMA|dDELTA|dEPSILON|dZETA
dETA|dTHETA|dIOTA|dKAPPA|dLAMDA|dMU|dNU|dXI|dOMICRON|dPI|dRHO|dFINAL SIGMA|dSIGMA|dTAU|dUPSILON
dPHI|dCHI|dPSI|dOMEGA|cPARTIAL DIFFERENTIAL|cEPSILON SYMBOL|cTHETAa|cKAPPAa|cPHIa|cRHOa|cPIa
cITALIC CAPITAL ALPHA|eBETA|eGAMMA|eDELTA|eEPSILON|eZETA|eETA|eTHETA|eIOTA|eKAPPA|eLAMDA|eMU|eNU
eXI|eOMICRON|ePI|eRHO|eTHETA SYMBOL|eSIGMA|eTAU|eUPSILON|ePHI|eCHI|ePSI|eOMEGA|dNABLA|dSMALL ALPHA
eBETA|eGAMMA|eDELTA|eEPSILON|eZETA|eETA|eTHETA|eIOTA|eKAPPA|eLAMDA|eMU|eNU|eXI|eOMICRON|ePI|eRHO
eFINAL SIGMA|eSIGMA|eTAU|eUPSILON|ePHI|eCHI|ePSI|eOMEGA|dPARTIAL DIFFERENTIAL|dEPSILON SYMBOL
dTHETAa|dKAPPAa|dPHIa|dRHOa|dPIa|aBOLD CAPITAL DIGAMMA|bSMALLa|1D7CE:bDIGIT ZERO|cONE|cTWO|cTHREE
cFOUR|cFIVE|cSIX|cSEVEN|cEIGHT|cNINE|aDOUBLE-STRUCK DIGIT ZERO|cONE|cTWO|cTHREE|cFOUR|cFIVE|cSIX
cSEVEN|cEIGHT|cNINE|aSANS-SERIF DIGIT ZERO|cONE|cTWO|cTHREE|cFOUR|cFIVE|cSIX|cSEVEN|cEIGHT|cNINE
bBOLD DIGIT ZERO|dONE|dTWO|dTHREE|dFOUR|dFIVE|dSIX|dSEVEN|dEIGHT|dNINE|aMONOSPACE DIGIT ZERO|cONE
cTWO|cTHREE|cFOUR|cFIVE|cSIX|cSEVEN|cEIGHT|cNINE|SIGNWRITING HAND-FIST INDEX|aHAND-CIRCLEa
aHAND-CUPa|aHAND-OVALa|aHAND-HINGEa|aHAND-ANGLEa|aHAND-FIST INDEX BENT|aHAND-CIRCLEb
aHAND-FIST THUMB UNDERb|bINDEX RAISED KNUCKLE|cCUPPED|cHINGED|dLOW|aHAND-CIRCLE INDEX HINGE
aHAND-FIST INDEX MIDDLE|aHAND-CIRCLEb|aHAND-FIST INDEX MIDDLE BENT|dRAISED KNUCKLES|dHINGED|cUPb
cHINGED MIDDLE UP|cMIDDLE CONJOINED|eINDEX BENT|eMIDDLEa|eCUPPED|eHINGED|dCROSSED|aHAND-CIRCLEc
aHAND-FIST MIDDLE BENT OVER INDEX|bINDEX BENT OVER MIDDLE|cMIDDLE THUMB|aHAND-CIRCLEc
aHAND-FIST INDEX MIDDLE STRAIGHT THUMB BENT|dBENT THUMB STRAIGHT|dTHUMB BENT
dHINGED SPREAD THUMB SIDE|cUP MIDDLE HINGEDb|gCONJOINED|cHINGED MIDDLE UP THUMB SIDE
cMIDDLE UP SPREAD THUMB FORWARD|dTHUMB CUPPED|eCIRCLED|eHOOKED|eHINGED
bTHUMB BETWEEN INDEX MIDDLE STRAIGHT|bINDEX MIDDLE CONJOINED THUMB SIDE|gCONJOINED|gBENT
bMIDDLE THUMB HOOKED INDEX UP|bINDEX THUMB HOOKED MIDDLEa|cMIDDLE CONJOINED HINGED THUMB SIDE
dCROSSEDb|dCONJOINED THUMB FORWARD|eCUPPEDb|bMIDDLE THUMB CUPPED INDEX UP
bINDEX THUMB CUPPED MIDDLEa|bMIDDLE THUMB CIRCLED INDEXa|fHINGED|bINDEX THUMB ANGLED OUT MIDDLE UP
eINb|dCIRCLEDb|cMIDDLE THUMB CONJOINED HINGED|eANGLED OUT|eANGLED
bMIDDLE THUMB ANGLED OUT INDEX UP|gCROSSED|eINDEX UP|bINDEX THUMB HOOKED MIDDLE HINGED
aHAND-FLAT FOUR FINGERS|dBENT|dHINGED|dCONJOINED|eSPLIT|aHAND-CLAW FOUR FINGERS CONJOINED
aHAND-FIST FOUR FINGERS CONJOINED BENT|aHAND-HINGE FOUR FINGERS CONJOINED
aHAND-FLAT FIVE FINGERS SPREAD|bHEELc|bFIVE FINGERS SPREAD FOUR BENT|bHEELe|bFIVE FINGERS SPREADa
bHEELd|bFIVE FINGERS SPREAD THUMB FORWARD|aHAND-CUP FIVE FINGERS SPREAD|eOPEN|aHAND-HINGEd
aHAND-OVAL FIVE FINGERS SPREAD|aHAND-FLAT FIVE FINGERS SPREAD HINGED|fTHUMB SIDE|fNO THUMB
aHAND-FLAT|bBETWEEN PALM FACINGS|bHEEL|bTHUMB SIDE|bHEELb|bTHUMB BENT|cFORWARD
bSPLIT INDEX THUMB SIDE|cCENTRE|dTHUMB SIDE|fBENT|cLITTLE|aHAND-CLAW|bTHUMB SIDE|bNO THUMB
bTHUMB FORWARD|aHAND-HOOK CURLICUE|aHAND-HOOK|aHAND-CUP OPEN|aHAND-CUP|bOPEN THUMB SIDE|bTHUMBa
bOPEN NO THUMB|bNOa|bOPEN THUMB FORWARD|bTHUMBa|aHAND-CURLICUE OPEN|aHAND-CURLICUE|aHAND-CIRCLE
aHAND-OVAL|bTHUMB SIDE|bNO THUMB|bTHUMB FORWARD|aHAND-HINGE OPEN|cTHUMB FORWARD|aHAND-HINGE|bSMALL
bOPEN THUMB SIDE|bTHUMBa|bOPEN NO THUMB|bNOa|bTHUMB SIDE TOUCHING INDEX|cBETWEEN MIDDLE RING
aHAND-ANGLE|aHAND-FIST INDEX MIDDLE RING|aHAND-CIRCLEc|aHAND-HINGEc|aHAND-ANGLEc
aHAND-HINGE LITTLE|aHAND-FIST INDEX MIDDLE RING BENT|eCONJOINED|aHAND-HINGEd
aHAND-FIST LITTLE DOWN|dRIPPLE STRAIGHT|eCURVED|dOTHERS CIRCLED|cUP|bTHUMB UNDERb|aHAND-CIRCLEb
aHAND-OVALb|aHAND-ANGLEb|aHAND-FIST LITTLE RAISED KNUCKLE|cBENT|cTOUCHES THUMB|cTHUMB|aHAND-HINGEb
aHAND-FIST LITTLE INDEXa|aHAND-HINGEc|aHAND-ANGLE LITTLE INDEX THUMB INDEX THUMB OUT|fTHUMB
aHAND-FIST LITTLE INDEX|aHAND-CIRCLEb|aHAND-HINGEb|aHAND-ANGLEb|aHAND-FIST INDEX MIDDLE LITTLE
aHAND-CIRCLEc|aHAND-HINGEc|bRING|aHAND-ANGLE INDEX MIDDLE LITTLE|aHAND-FIST INDEX MIDDLE CROSSa
aHAND-CIRCLEd|aHAND-FIST RING DOWN|aHAND-HINGE RING DOWN INDEX THUMB HOOK MIDDLE
aHAND-ANGLE RING DOWN MIDDLE THUMB INDEX CROSS|aHAND-FIST RING UP|cRAISED KNUCKLE|cLITTLE
aHAND-CIRCLEb|aHAND-OVALb|aHAND-ANGLEb|aHAND-FIST RING MIDDLE|dCONJOINED|dRAISED KNUCKLES|cINDEX
cTHUMB|aHAND-HOOKb|aHAND-FIST INDEX RING LITTLE|aHAND-CIRCLEc|aHAND-CURLICUE INDEX RING LITTLE ON
aHAND-HOOK INDEX RING LITTLE OUT|eIN|eUNDER|aHAND-CUP INDEX RING LITTLE|aHAND-HINGEc
aHAND-ANGLE INDEX RING LITTLE OUT|dLITTLE|aHAND-FIST MIDDLE DOWN|aHAND-HINGE MIDDLE
aHAND-FIST MIDDLE UP|aHAND-CIRCLEb|aHAND-FIST MIDDLE RAISED KNUCKLE|cUP THUMB SIDE
aHAND-HOOK MIDDLE THUMB|aHAND-FIST MIDDLE THUMB LITTLE|cLITTLE|cRINGa|aHAND-CIRCLEc
aHAND-CURLICUE MIDDLE RING LITTLE ON|aHAND-CUP MIDDLE RING LITTLE|aHAND-HINGEc
aHAND-ANGLE MIDDLE RING LITTLE OUT|eIN|dLITTLE|aHAND-CIRCLE MIDDLE RING LITTLE BENT
aHAND-CLAW MIDDLE RING LITTLE CONJOINED|fSIDE|aHAND-HOOK MIDDLE RING LITTLE CONJOINED OUT|fIN
eCONJOINED|aHAND-HINGE INDEX HINGED|aHAND-FIST INDEX THUMB SIDE|aHAND-HINGEc
aHAND-FIST INDEX THUMB SIDE THUMB DIAGONAL|fCONJOINED|fBENT|eINDEXa|eBOTHa|eINDEX HINGE
dFORWARD INDEX STRAIGHT|fBENT|dHOOK|dCURLICUE|dCURVE THUMB INSIDE|aHAND-CLAWe
aHAND-FIST INDEX THUMB CURVE THUMB UNDER|dCIRCLE|aHAND-CUP INDEX THUMB|dOPEN|aHAND-HINGEc|dLARGE
cTHUMB|dSMALL|aHAND-ANGLE INDEX THUMB OUT|dIN|cTHUMB|aHAND-FISTa|cHEEL|cSIDE DIAGONAL|dCONJOINED
dBENT|cFORWARD|cBETWEEN INDEX MIDDLE|dMIDDLE RING|dRING LITTLE|cUNDER TWO FINGERS|cOVERb
cUNDER THREEa|dFOURa|cOVER FOUR RAISED KNUCKLES|aHAND-FIST|bHEEL|aTOUCH SINGLE|bMULTIPLE|bBETWEEN
aGRASP SINGLE|bMULTIPLE|bBETWEEN|aSTRIKE SINGLE|bMULTIPLE|bBETWEEN|aBRUSH SINGLE|bMULTIPLE
bBETWEEN|aRUB SINGLE|bMULTIPLE|bBETWEEN|aSURFACE SYMBOLS|bBETWEEN|aSQUEEZE LARGE SINGLE|bSMALLa
bLARGE MULTIPLE|bSMALLa|bSEQUENTIAL|aFLICK LARGE SINGLE|bSMALLa|bLARGE MULTIPLE|bSMALLa
bSEQUENTIAL|aSQUEEZE FLICK ALTERNATING|aMOVEMENT-HINGE UP DOWN LARGE|dSMALL|cSEQUENTIAL|bDOWNa
bUP DOWN ALTERNATING LARGE|eSMALL|bSIDE TO SIDE SCISSORS|aMOVEMENT-WALLPLANE FINGER CONTACT
aMOVEMENT-FLOORPLANEb|aMOVEMENT-WALLPLANE SINGLE STRAIGHT SMALL|dMEDIUM|dLARGE|dLARGEST
cWRIST FLEX|bDOUBLE STRAIGHT|cWRIST FLEX|cALTERNATING|dWRIST FLEX|bCROSS|bTRIPLE STRAIGHT MOVEMENT
cWRIST FLEX|cALTERNATING|dWRIST FLEX|bBEND SMALL|cMEDIUM|cLARGE|bCORNER SMALL|cMEDIUM|cLARGE
cROTATION|bCHECK SMALL|cMEDIUM|cLARGE|bBOX SMALL|cMEDIUM|cLARGE|bZIGZAG SMALL|cMEDIUM|cLARGE
bPEAKS SMALL|cMEDIUM|cLARGE|aTRAVEL-WALLPLANE ROTATION-WALLPLANE SINGLE|cDOUBLE|cALTERNATING
bROTATION-FLOORPLANE SINGLE|cDOUBLE|cALTERNATING|bSHAKING|bARM SPIRAL SINGLE|dDOUBLE|dTRIPLE
aMOVEMENT-DIAGONAL AWAY SMALL|cMEDIUM|cLARGE|cLARGEST|bTOWARDS SMALL|cMEDIUM|cLARGE|cLARGEST
bBETWEEN AWAY SMALL|dMEDIUM|dLARGE|dLARGEST|cTOWARDS SMALL|dMEDIUM|dLARGE|dLARGEST
aMOVEMENT-FLOORPLANE SINGLE STRAIGHT SMALL|dMEDIUM|dLARGE|dLARGEST|cWRIST FLEX|bDOUBLE STRAIGHT
cWRIST FLEX|cALTERNATING|dWRIST FLEX|bCROSS|bTRIPLE STRAIGHT MOVEMENT|cWRIST FLEX
cALTERNATING MOVEMENT|dWRIST FLEX|bBEND|bCORNER SMALL|cMEDIUM|cLARGE|bCHECK|bBOX SMALL|cMEDIUM
cLARGE|bZIGZAG SMALL|cMEDIUM|cLARGE|bPEAKS SMALL|cMEDIUM|cLARGE
aTRAVEL-FLOORPLANE ROTATION-FLOORPLANE SINGLE|cDOUBLE|cALTERNATING|bROTATION-WALLPLANE SINGLE
cDOUBLE|cALTERNATING|bSHAKING|aMOVEMENT-WALLPLANE CURVE QUARTER SMALL|dMEDIUM|dLARGE|dLARGEST
cHALF-CIRCLE SMALL|dMEDIUM|dLARGE|dLARGEST|cTHREE-QUARTER CIRCLE SMALL|eMEDIUM|bHUMP SMALL|cMEDIUM
cLARGE|bLOOP SMALL|cMEDIUM|cLARGE|cSMALL DOUBLE|bWAVE CURVE DOUBLE SMALL|eMEDIUM|eLARGE
dTRIPLE SMALL|eMEDIUM|eLARGE|bCURVE THEN STRAIGHT|bCURVED CROSS SMALL|dMEDIUM
aROTATION-WALLPLANE SINGLE|bDOUBLE|bALTERNATE|aMOVEMENT-WALLPLANE SHAKING
bCURVE HITTING FRONT WALL|bHUMPc|bLOOPc|bWAVEc|aROTATION-WALLPLANE SINGLEc|bDOUBLEc|bALTERNATINGc
aMOVEMENT-WALLPLANE CURVE HITTING CHEST|bHUMPb|bLOOPb|bWAVEb|aROTATION-WALLPLANE SINGLEb|bDOUBLEb
bALTERNATINGb|aMOVEMENT-WALLPLANE WAVE DIAGONAL PATH SMALL|eMEDIUM|eLARGE
aMOVEMENT-FLOORPLANE CURVE HITTING CEILING SMALL|eLARGE|bHUMP HITTING CEILING SMALL DOUBLE|eLARGEa
eSMALL TRIPLE|eLARGEa|bLOOP HITTING CEILING SMALL SINGLE|eLARGEa|eSMALL DOUBLE|eLARGEa
bWAVE HITTING CEILING SMALL|eLARGE|aROTATION-FLOORPLANE SINGLE HITTING CEILING|bDOUBLEb
bALTERNATINGb|aMOVEMENT-FLOORPLANE CURVE HITTING FLOOR SMALL|eLARGE
bHUMP HITTING FLOOR SMALL DOUBLE|eLARGEa|eTRIPLE SMALL TRIPLE|fLARGEa
bLOOP HITTING FLOOR SMALL SINGLE|eLARGEa|eSMALL DOUBLE|eLARGEa|bWAVE HITTING FLOOR SMALL|eLARGE
aROTATION-FLOORPLANE SINGLE HITTING FLOOR|bDOUBLEb|bALTERNATINGb|aMOVEMENT-FLOORPLANE CURVE SMALL
cMEDIUM|cLARGE|cLARGEST|cCOMBINED|bHUMP SMALL|bLOOPa|bWAVE SNAKE|cSMALL|cLARGE
aROTATION-FLOORPLANE SINGLE|bDOUBLE|bALTERNATING|aMOVEMENT-FLOORPLANE SHAKING PARALLEL
aMOVEMENT-WALLPLANE ARM CIRCLE SMALL SINGLE|dMEDIUMa|dSMALL DOUBLE|dMEDIUMa
aMOVEMENT-FLOORPLANE ARM CIRCLE HITTING WALL SMALL SINGLE|fMEDIUMa|fLARGEa|fSMALL DOUBLE|fMEDIUMa
fLARGEa|aMOVEMENT-WALLPLANE WRIST CIRCLE FRONT SINGLE|eDOUBLE
aMOVEMENT-FLOORPLANE WRIST CIRCLE HITTING WALL SINGLE|fDOUBLE
aMOVEMENT-WALLPLANE FINGER CIRCLES SINGLE|dDOUBLE
aMOVEMENT-FLOORPLANE FINGER CIRCLES HITTING WALL SINGLE|fDOUBLE|aDYNAMIC ARROWHEAD SMALL|cLARGE
bFAST|bSLOW|bTENSE|bRELAXED|bSIMULTANEOUS|cALTERNATING|bEVERY OTHER TIME|bGRADUAL|aHEAD|bRIM
bMOVEMENT-WALLPLANE STRAIGHT|cTILT|bMOVEMENT-FLOORPLANE STRAIGHT|bMOVEMENT-WALLPLANE CURVE
bMOVEMENT-FLOORPLANEa|bMOVEMENT CIRCLE|aFACE DIRECTION POSITION NOSE FORWARD TILTING|eUP OR DOWN
hTILTING|aEYEBROWS STRAIGHT UP|cNEUTRAL|cDOWN|aDREAMY EYEBROWS NEUTRALa|cDOWN NEUTRAL|cUPa
cNEUTRAL UP|aFOREHEAD NEUTRAL|bCONTACT|bWRINKLED|aEYES OPEN|bSQUEEZED|bCLOSED|aEYE BLINK SINGLE
cMULTIPLE|aEYES HALF OPEN|bWIDEa|bHALF CLOSED|bWIDENING MOVEMENT|aEYE WINK|aEYELASHES UP|bDOWN
bFLUTTERING|aEYEGAZE-WALLPLANE STRAIGHT|cDOUBLE|cALTERNATING|aEYEGAZE-FLOORPLANE STRAIGHT|cDOUBLE
cALTERNATING|aEYEGAZE-WALLPLANE CURVED|aEYEGAZE-FLOORPLANEa|aEYEGAZE-WALLPLANE CIRCLING
aCHEEKS PUFFED|bNEUTRAL|bSUCKED|aTENSE CHEEKS HIGH|cMIDDLE|cLOW|aEARS|aNOSE NEUTRAL|bCONTACT
bWRINKLES|bWIGGLES|aAIR BLOWING OUT|bSUCKING IN|bBLOW SMALL ROTATIONS|bSUCKb|aBREATH INHALE
bEXHALE|aMOUTH CLOSED NEUTRAL|cFORWARD|cCONTACT|bSMILE|cWRINKLED|cOPEN|bFROWN|cWRINKLED|cOPEN
bOPEN CIRCLE|cFORWARD|cWRINKLED|cOVAL|dWRINKLED|dYAWN|cRECTANGLE|dWRINKLED|dYAWN|bKISS|cFORWARD
cWRINKLED|bTENSE|cFORWARD|cSUCKED|aLIPS PRESSED TOGETHER|aLIP LOWER OVER UPPER|bUPPER OVER LOWER
aMOUTH CORNERS|bWRINKLES SINGLE|cDOUBLE|aTONGUE STICKING OUT FAR|bLICKING LIPS|bTIP BETWEENa
cTOUCHING INSIDE MOUTH|bINSIDE MOUTH RELAXED|bMOVES AGAINST CHEEK|bCENTRE STICKING OUT
cINSIDE MOUTH|aTEETH|bMOVEMENT|bON TONGUE|dMOVEMENT|cLIPS|dMOVEMENT|bBITE LIPS
aMOVEMENT-WALLPLANE JAW|aMOVEMENT-FLOORPLANEa|aNECK|aHAIR|aEXCITEMENT|aSHOULDER HIP SPINE
cPOSITIONS|aWALLPLANE SHOULDER HIP MOVE|aFLOORPLANEc|aSHOULDER TILTING FROM WAIST
aTORSO-WALLPLANE STRAIGHT STRETCH|bCURVED BEND|aTORSO-FLOORPLANE TWISTING
aUPPER BODY TILTING FROM HIP JOINTS|aLIMB COMBINATION|bLENGTH-1|+6|aFINGER
aLOCATION-WALLPLANE SPACE|aLOCATION-FLOORPLANEa|aLOCATION HEIGHT|bWIDTH|bDEPTH|bHEAD NECK|bTORSO
bLIMBS DIGITS|aCOMMA|aFULL STOP|aSEMICOLON|aCOLON|aPARENTHESIS|1DA9B:aFILL MODIFIER-2|+4
1DAA1:aROTATION MODIFIER-2|+14|1DF00:LATIN SMALL LETTER FENG DIGRAPH WITH TRILL|cREVERSED SCRIPT G
aLETTER SMALL CAPITAL TURNEDa|aSMALL LETTER REVERSED K|aLETTER SMALL CAPITAL L WITH BELT
aSMALL LETTER LEZH WITH RETROFLEX HOOK|cTURNED Y WITH BELT|cREVERSED ENG
cTURNED R WITH LONG LEG AND RETROFLEX HOOK|cT WITH HOOKc|aLETTER RETROFLEX CLICK WITHb
aSMALL LETTER ESH WITH DOUBLE BAR|gAND CURL|cTURNED T WITHa|aLETTER INVERTED GLOTTAL STOPb
bSTRETCHED Cb|bSMALL CAPITAL TURNED K|aSMALL LETTER L WITH FISHHOOK
cDEZH DIGRAPH WITH PALATAL HOOK|cL WITH BELT ANDb|cENG WITHb|cTURNED Rc|cR WITH FISHHOOK ANDb
cTESH DIGRAPH WITHb|cEZHc|cDEZH DIGRAPH WITH RETROFLEXa|cI WITH STROKE ANDb|cO WITHb
cTESH DIGRAPHc|cCc|cS WITH CURL|1E000:COMBINING GLAGOLITIC LETTER AZU|cBUKY|cVEDE|cGLAGOLI|cDOBRO
cYESTU|cZHIVETE|1E008:cZEMLJA|cIZHE|cINITIALa|cI|cDJERVI|cKAKO|cLJUDIJE|cMYSLITE|cNASHI|cONU
cPOKOJI|cRITSI|cSLOVO|cTVRIDO|cUKU|cFRITU|cHERU|1E01B:cSHTA|cTSI|cCHRIVI|cSHA|cYERU|cYERI|cYATI
1E023:cYU|cSMALL YUS|1E026:cYO|cIOTATED SMALL YUS|cBIGa|cIOTATEDb|cFITA
1E100:NYIAKENG PUACHUE HMONG LETTER MA|dTSA|dNTA|dTA|dHA|dNA|dXA|dNKA|dCA|dLA|dSA|dZA|dNCA|dNTSA
dKA|dDA|dNYA|dNRA|dVA|dNTXA|dTXA|dFA|dRA|dQA|dYA|dNQA|dPA|dXYA|dNPA|dDLA|dNPLA|dHAH|dMLA|dPLA|dGA
dRRA|dA|dAA|dI|dU|dO|dOO|dE|dEE|dW|1E130:cTONE-B|cTONE-M|cTONE-J|cTONE-V|cTONE-S|cTONE-G|cTONE-D
cSIGN FOR PERSON|eTHING|eLOCATION|eANIMAL|eINVERTEBRATE|dXW XW|cSYLLABLE LENGTHENER
1E140:cDIGIT ZERO|dONE|dTWO|dTHREE|dFOUR|dFIVE|dSIX|dSEVEN|dEIGHT|dNINE|1E14E:cLOGOGRAM NYAJ
cCIRCLED CA|1E290:TOTO LETTER PA|bBA|bTA|bDA|bKA|bGA|bMA|bNA|bNGA|bSA|bCHA|bYA|bWA|bJA|bHA|bRA|bLA
bI|bBREATHYa|bIU|bBREATHYa|bU|bE|bBREATHYa|bEO|bBREATHYa|bO|bAE|bBREATHYa|bA|aSIGN RISING TONE
1E2C0:WANCHO LETTER AA|bA|bBA|bCA|bDA|bGA|bYA|bPHA|bLA|bNA|bPA|bTA|bTHA|bFA|bSA|bSHA|bJA|bZA|bWA
bVA|bKA|bO|bAU|bRA|bMA|bKHA|bHA|bE|bI|bNGA|bU|bLLHA|bTSA|bTRA|bONG|bAANG|bANG|bING|bON|bEN|bAAN
bNYA|bUEN|bYIH|aTONE TUP|bTUPNI|bKOI|bKOINI|aDIGIT ZERO|bONE|bTWO|bTHREE|bFOUR|bFIVE|bSIX|bSEVEN
bEIGHT|bNINE|1E2FF:aNGUN SIGN|1E7E0:ETHIOPIC SYLLABLE HHYA|bHHYU|bHHYI|bHHYAA|bHHYEE|bHHYE|bHHYO
1E7E8:bGURAGE HHWA|bHHWI|bHHWEE|bHHWE|1E7ED:bGURAGE MWI|cMWEE|1E7F0:cQWI|cQWEE|cQWE|cBWI|cBWEE
cKWI|cKWEE|cKWE|cGWI|cGWEE|cGWE|cFWI|cFWEE|cPWI|cPWEE|1E800:MENDE KIKAKUI SYLLABLE M001 KI
cM002 KA|cM003 KU|cM065 KEE|cM095 KE|cM076 KOO|cM048 KO|cM179 KUA|cM004 WI|cM005 WA|cM006 WU
cM126 WEE|cM118 WE|cM114 WOO|cM045 WO|cM194 WUI|cM143 WEI|cM061 WVI|cM049 WVA|cM139 WVE|cM007 MIN
cM008 MAN|cM009 MUN|cM059 MEN|cM094 MON|cM154 MUAN|cM189 MUEN|cM010 BI|cM011 BA|cM012 BU|cM150 BEE
cM097 BE|cM103 BOO|cM138 BO|cM013 I|cM014 A|cM015 U|cM163 EE|cM100 E|cM165 OO|cM147 O|cM137 EI
cM131 IN|cM135a|cM195 AN|cM178 EN|cM019 SI|cM020 SA|cM021 SU|cM162 SEE|cM116 SE|cM136 SOO|cM079 SO
cM196 SIA|cM025 LI|cM026 LA|cM027 LU|cM084 LEE|cM073 LE|cM054 LOO|cM153 LO|cM110 LONG LE|cM016 DI
cM017 DA|cM018 DU|cM089 DEE|cM180 DOO|cM181 DO|cM022 TI|cM023 TA|cM024 TU|cM091 TEE|cM055 TE
cM104 TOO|cM069 TO|cM028 JI|cM029 JA|cM030 JU|cM157 JEE|cM113 JE|cM160 JOO|cM063 JO|cM175 LONGa
cM031 YI|cM032 YA|cM033 YU|cM109 YEE|cM080 YE|cM141 YOO|cM121 YO|cM034 FI|cM035 FA|cM036 FU
cM078 FEE|cM075 FE|cM133 FOO|cM088 FO|cM197 FUA|cM101 FAN|cM037 NIN|cM038 NAN|cM039 NUN|cM117 NEN
cM169 NON|cM176 HI|cM041 HA|cM186 HU|cM040 HEE|cM096 HE|cM042 HOO|cM140 HO|cM083 HEEI|cM128 HOOU
cM053 HIN|cM130 HAN|cM087 HUN|cM052 HEN|cM193 HON|cM046 HUAN|cM090 NGGI|cM043 NGGA|cM082 NGGU
cM115 NGGEE|cM146 NGGE|cM156 NGGOO|cM120 NGGO|cM159 NGGAA|cM127 NGGUA|cM086 LONG NGGE
cM106 LONG NGGOO|cM183 LONG NGGO|cM155 GI|cM111 GA|cM168 GU|cM190 GEE|cM166 GUEI|cM167 GUAN
cM184 NGEN|cM057 NGON|cM177 NGUAN|cM068 PI|cM099 PA|cM050 PU|cM081 PEE|cM051 PE|cM102 POO|cM066 PO
cM145 MBI|cM062 MBA|cM122 MBU|cM047 MBEE|cM188a|cM072 MBE|cM172 MBOO|cM174 MBO|cM187 MBUU
cM161 LONG MBE|cM105 LONG MBOO|cM142 LONG MBO|cM132 KPI|cM092 KPA|cM074 KPU|cM044 KPEE|cM108 KPE
cM112 KPOO|cM158 KPO|cM124 GBI|cM056 GBA|cM148 GBU|cM093 GBEE|cM107 GBE|cM071 GBOO|cM070 GBO
cM171 RA|cM123 NDI|cM129 NDA|cM125 NDU|cM191 NDEE|cM119 NDE|cM067 NDOO|cM064 NDO|cM152 NJA
cM192 NJU|cM149 NJEE|cM134 NJOO|cM182 VI|cM185 VA|cM151 VU|cM173 VEE|cM085 VE|cM144 VOO|cM077 VO
cM164 NYIN|cM058 NYAN|cM170 NYUN|cM098 NYEN|cM060 NYON|1E8C7:bDIGIT ONE|cTWO|cTHREE|cFOUR|cFIVE
cSIX|cSEVEN|cEIGHT|cNINE|bCOMBINING NUMBER TEENS|dTENS|dHUNDREDS|dTHOUSANDS|dTENa|dHUNDREDa
dMILLIONS|1E900:ADLAM CAPITAL LETTER ALIF|cDAALI|cLAAM|cMIIM|cBA|cSINNYIIYHE|cPE|cBHE|cRA|cE|cFA
cI|cO|cDHA|cYHE|cWAW|cNUN|cKAF|cYA|cU|cJIIM|cCHI|cHA|cQAAF|cGA|cNYA|cTU|cNHA|cVA|cKHA|cGBE|cZAL
cKPO|cSHA|aSMALL LETTER ALIF|cDAALI|cLAAM|cMIIM|cBA|cSINNYIIYHE|cPE|cBHE|cRA|cE|cFA|cI|cO|cDHA
cYHE|cWAW|cNUN|cKAF|cYA|cU|cJIIM|cCHI|cHA|cQAAF|cGA|cNYA|cTU|cNHA|cVA|cKHA|cGBE|cZAL|cKPO|cSHA
aALIF LENGTHENER|aVOWELa|aGEMINATION MARK|aHAMZA|aCONSONANT MODIFIER|aGEMINATEb|aNUKTA
aNASALIZATION MARK|1E950:aDIGIT ZERO|bONE|bTWO|bTHREE|bFOUR|bFIVE|bSIX|bSEVEN|bEIGHT|bNINE
1E95E:aINITIAL EXCLAMATION MARK|bQUESTIONa|1EC71:INDIC SIYAQ NUMBER ONE|cTWO|cTHREE|cFOUR|cFIVE
cSIX|cSEVEN|cEIGHT|cNINE|cTEN|cTWENTY|cTHIRTY|cFORTY|cFIFTY|cSIXTY|cSEVENTY|cEIGHTY|cNINETY
cONE HUNDRED|cTWOa|cTHREEa|cFOURa|cFIVEa|cSIXa|cSEVENa|cEIGHTa|cNINEa|cONE THOUSAND|cTWOa|cTHREEa
cFOURa|cFIVEa|cSIXa|cSEVENa|cEIGHTa|cNINEa|cTENa|cTWENTYa|cTHIRTYa|cFORTYa|cFIFTYa|cSIXTYa
cSEVENTYa|cEIGHTYa|cNINETYa|cLAKH|cLAKHAN|bLAKH MARK|bNUMBER KAROR|cKARORAN|cPREFIXED ONE|dTWO
dTHREE|dFOUR|dFIVE|dSIX|dSEVEN|dEIGHT|dNINE|bPLACEHOLDER|bFRACTION ONE QUARTER|dHALF
cTHREE QUARTERS|bRUPEE MARK|bNUMBER ALTERNATE ONE|dTWO|dTEN THOUSAND|bALTERNATE LAKH MARK
1ED01:OTTOMAN SIYAQ NUMBER ONE|cTWO|cTHREE|cFOUR|cFIVE|cSIX|cSEVEN|cEIGHT|cNINE|cTEN|cTWENTY
cTHIRTY|cFORTY|cFIFTY|cSIXTY|cSEVENTY|cEIGHTY|cNINETY|cONE HUNDRED|cTWOa|cTHREEa|cFOURa|cFIVEa
cSIXa|cSEVENa|cEIGHTa|cNINEa|cONE THOUSAND|cTWOa|cTHREEa|cFOURa|cFIVEa|cSIXa|cSEVENa|cEIGHTa
cNINEa|cTENa|cTWENTYa|cTHIRTYa|cFORTYa|cFIFTYa|cSIXTYa|cSEVENTYa|cEIGHTYa|cNINETYa|bMARRATAN
bALTERNATE NUMBER TWO|dTHREE|dFOUR|dFIVE|dSIX|dSEVEN|dEIGHT|dNINE|dTEN|dFOUR HUNDRED|dSIXa
dTWO THOUSAND|dTENa|bFRACTION ONE HALF|dSIXTH|1EE00:ARABIC MATHEMATICAL ALEF|bBEH|bJEEM|bDAL
1EE05:bWAW|bZAIN|bHAH|bTAH|bYEH|bKAF|bLAM|bMEEM|bNOON|bSEEN|bAIN|bFEH|bSAD|bQAF|bREH|bSHEEN|bTEH
bTHEH|bKHAH|bTHAL|bDAD|bZAH|bGHAIN|bDOTLESS BEH|cNOON|cFEH|cQAF|1EE21:bINITIAL BEH|cJEEM
1EE24:cHEH|1EE27:cHAH|1EE29:cYEH|cKAF|cLAM|cMEEM|cNOON|cSEEN|cAIN|cFEH|cSAD|cQAF|1EE34:cSHEEN|cTEH
cTHEH|cKHAH|1EE39:cDAD|1EE3B:cGHAIN|1EE42:bTAILED JEEM|1EE47:cHAH|1EE49:cYEH|1EE4B:cLAM
1EE4D:cNOON|cSEEN|cAIN|1EE51:cSAD|cQAF|1EE54:cSHEEN|1EE57:cKHAH|1EE59:cDAD|1EE5B:cGHAIN
1EE5D:cDOTLESS NOON|1EE5F:dQAF|1EE61:bSTRETCHED BEH|cJEEM|1EE64:cHEH|1EE67:cHAH|cTAH|cYEH|cKAF
1EE6C:cMEEM|cNOON|cSEEN|cAIN|cFEH|cSAD|cQAF|1EE74:cSHEEN|cTEH|cTHEH|cKHAH|1EE79:cDAD|cZAH|cGHAIN
cDOTLESS BEH|1EE7E:dFEH|1EE80:bLOOPED ALEF|cBEH|cJEEM|cDAL|cHEH|cWAW|cZAIN|cHAH|cTAH|cYEH
1EE8B:cLAM|cMEEM|cNOON|cSEEN|cAIN|cFEH|cSAD|cQAF|cREH|cSHEEN|cTEH|cTHEH|cKHAH|cTHAL|cDAD|cZAH
cGHAIN|1EEA1:bDOUBLE-STRUCK BEH|cJEEM|cDAL|1EEA5:cWAW|cZAIN|cHAH|cTAH|cYEH|1EEAB:cLAM|cMEEM|cNOON
cSEEN|cAIN|cFEH|cSAD|cQAF|cREH|cSHEEN|cTEH|cTHEH|cKHAH|cTHAL|cDAD|cZAH|cGHAIN
1EEF0:bOPERATOR MEEM WITH HAH WITH TATWEEL|cHAH WITH DAL"

end SchemaFold.Text
