/-! Names of characters: from Linear B to shorthands. -/

namespace SchemaFold.Text

def ancientNames : String :=
"10000:LINEAR B SYLLABLE B008 A|cB038 E|cB028 I|cB061 O|cB010 U|cB001 DA|cB045 DE|cB007 DI|cB014 DO
cB051 DU|cB057 JA|cB046 JE|1000D:cB036 JO|cB065 JU|cB077 KA|cB044 KE|cB067 KI|cB070 KO|cB081 KU
cB080 MA|cB013 ME|cB073 MI|cB015 MO|cB023 MU|cB006 NA|cB024 NE|cB030 NI|cB052 NO|cB055 NU|cB003 PA
cB072 PE|cB039 PI|cB011 PO|cB050 PU|cB016 QA|cB078 QE|cB021 QI|cB032 QO|10028:cB060 RA|cB027 RE
cB053 RI|cB002 RO|cB026 RU|cB031 SA|cB009 SE|cB041 SI|cB012 SO|cB058 SU|cB059 TA|cB004 TE|cB037 TI
cB005 TO|cB069 TU|cB054 WA|cB075 WE|cB040 WI|cB042 WO|1003C:cB017 ZA|cB074 ZE|1003F:cB020 ZO
cB025 A2|cB043 A3|cB085 AU|cB071 DWE|cB090 DWO|cB048 NWA|cB029 PU2|cB062 PTE|cB076 RA2|cB033 RA3
cB068 RO2|cB066 TA2|cB087 TWE|cB091 TWO|10050:bSYMBOL B018|+1|cB022|cB034|cB047|cB049|cB056|cB063
+1|cB079|cB082|+1|cB086|cB089|10080:bIDEOGRAM B100 MAN|cB102 WOMAN|cB104 DEER|cB105 EQUID
cB105F MARE|cB105M STALLION|cB106F EWE|cB106M RAM|cB107F SHE-GOAT|cB107M HE-GOAT|cB108F SOW
cB108M BOAR|cB109F COW|cB109M BULL|cB120 WHEAT|cB121 BARLEY|cB122 OLIVE|cB123 SPICE|cB125 CYPERUS
bMONOGRAM B127 KAPO|cB128 KANAKO|bIDEOGRAM B130 OIL|cB131 WINE|cB132|bMONOGRAM B133 AREPA
cB135 MERI|bIDEOGRAM B140 BRONZE|cB141 GOLD|cB142|cB145 WOOL|cB146|cB150|cB151 HORN|cB152|+2
bMONOGRAM B156 TURO2|bIDEOGRAM B157|+1|cB159 CLOTH|cB160|+1|cB162 GARMENT|cB163 ARMOUR|cB164|+8
cB173 MONTH|cB174|cB176 TREE|cB177|+8|cB189|+1|cB191 HELMET|cB220 FOOTSTOOL|cB225 BATHTUB
cB230 SPEAR|cB231 ARROW|cB232|cB233 SWORD|cB234|cB236|cB240 WHEELED CHARIOT|cB241a
cB242 CHARIOT FRAME|cB243 WHEEL|cB245|+1|bMONOGRAM B247 DIPTE|bIDEOGRAM B248|+1|cB251|+2
cB254 DART|cB255|+4|cVESSEL B155|dB200|+19|dB221|+1|dB226|+3|dB250|dB305
10100:AEGEAN WORD SEPARATOR LINE|cDOT|aCHECK MARK|10107:aNUMBER ONE|bTWO|bTHREE|bFOUR|bFIVE|bSIX
bSEVEN|bEIGHT|bNINE|bTEN|bTWENTY|bTHIRTY|bFORTY|bFIFTY|bSIXTY|bSEVENTY|bEIGHTY|bNINETY
bONE HUNDRED|bTWOa|bTHREEa|bFOURa|bFIVEa|bSIXa|bSEVENa|bEIGHTa|bNINEa|bONE THOUSAND|bTWOa|bTHREEa
bFOURa|bFIVEa|bSIXa|bSEVENa|bEIGHTa|bNINEa|bTENa|bTWENTYa|bTHIRTYa|bFORTYa|bFIFTYa|bSIXTYa
bSEVENTYa|bEIGHTYa|bNINETYa|10137:aWEIGHT BASE UNIT|bFIRST SUBUNIT|bSECONDa|bTHIRDa|bFOURTHa
aDRY MEASURE FIRSTa|aLIQUIDc|aMEASURE SECONDa|bTHIRDa|GREEK ACROPHONIC ATTIC ONE QUARTER|dHALF
dDRACHMA|cFIVE|cFIFTY|cFIVE HUNDRED|dTHOUSAND|cFIFTYa|cFIVE TALENTS|cTENa|cFIFTYa|cONE HUNDREDa
cFIVEb|cONE THOUSANDa|cFIVEb|dSTATERS|cTENa|cFIFTYa|cONE HUNDREDa|cFIVEb|cONE THOUSANDa|cTENb
cFIFTYb|cTEN MNAS|bHERAEUM ONE PLETHRON|bTHESPIAN ONE|bHERMIONIANa|bEPIDAUREAN TWO|bTHESPIANa
bCYRENAIC TWO DRACHMAS|bEPIDAUREANb|bTROEZENIAN FIVE|cTEN|dALTERNATE FORM|bHERMIONIAN TEN
bMESSENIANa|bTHESPIANa|cTHIRTY|bTROEZENIAN FIFTY|dALTERNATE FORM|bHERMIONIAN FIFTY|bTHESPIANa
cONE HUNDRED|cTHREEa|bEPIDAUREAN FIVEa|bTROEZENIANb|bTHESPIANb|bCARYSTIANb|bNAXIANb
bTHESPIAN ONE THOUSAND|cFIVEa|bDELPHIC FIVE MNAS|bSTRATIAN FIFTYa|aONE HALF SIGN|dALTERNATE FORM
aTWO THIRDS SIGN|aTHREE QUARTERSa|aYEARa|aTALENTa|aDRACHMAa|aOBOLa|aTWO OBOLSa|aTHREEb|aFOURb
aFIVEb|aMETRETESa|aKYATHOS BASEa|aLITRAa|aOUNKIAa|aXESTESa|aARTABEa|aAROURAa|aGRAMMAa
aTRYBLION BASEa|aZEROa|aONE QUARTERa|aSINUSOIDa|aINDICTIONa|NOMISMAa|10190:ROMAN SEXTANSa|aUNCIAa
aSEMUNCIAa|aSEXTULAa|aDIMIDIAb|aSILIQUAa|aDENARIUSa|aQUINARIUSa|aSESTERTIUSa|aDUPONDIUSa|aASa
aCENTURIALa|ASCIA SYMBOL|101A0:GREEK SYMBOL TAU RHO|101D0:PHAISTOS DISC SIGN PEDESTRIAN
cPLUMED HEAD|cTATTOOEDa|cCAPTIVE|cCHILD|cWOMAN|cHELMET|cGAUNTLET|cTIARA|cARROW|cBOW|cSHIELD|cCLUB
cMANACLES|cMATTOCK|cSAW|cLID|cBOOMERANG|cCARPENTRY PLANE|cDOLIUM|cCOMB|cSLING|cCOLUMN|cBEEHIVE
cSHIP|cHORN|cHIDE|cBULLS LEG|cCAT|cRAM|cEAGLE|cDOVE|cTUNNY|cBEE|cPLANE TREE|cVINE|cPAPYRUS
cROSETTE|cLILY|cOX BACK|cFLUTE|cGRATER|cSTRAINER|cSMALL AXE|cWAVY BAND|cCOMBINING OBLIQUE STROKE
10280:LYCIAN LETTER A|bE|bB|bBH|bG|bD|bI|bW|bZ|bTH|bJ|bK|bQ|bL|bM|bN|bMM|bNN|bU|bP|bKK|bR|bS|bT
bTT|bAN|bEN|bH|bX|102A0:CARIAN LETTER A|bP2|bD|bL|bUUU|bR|bLD|bA2|bQ|bB|bM|bO|bD2|bT|bSH|bSH2|bS
bC-18|bU|bNN|bX|bN|bTT2|bP|bSS|bI|bE|bUUUU|bK|bK2|bND|bUU|bG|bG2|bST|bST2|bNG|bII|bC-39|bTT|bUUU2
bRR|bMB|bMB2|+2|bLD2|bE2|bUUU3|102E0:COPTIC EPACT THOUSANDS MARK|bDIGIT ONE|cTWO|cTHREE|cFOUR
cFIVE|cSIX|cSEVEN|cEIGHT|cNINE|bNUMBER TEN|cTWENTY|cTHIRTY|cFORTY|cFIFTY|cSIXTY|cSEVENTY|cEIGHTY
cNINETY|cONE HUNDRED|cTWOa|cTHREEa|cFOURa|cFIVEa|cSIXa|cSEVENa|cEIGHTa|cNINEa
10300:OLD ITALIC LETTER A|cBE|cKE|cDE|cE|cVE|cZE|cHE|cTHE|cI|cKA|cEL|cEM|cEN|cESH|cO|cPE|cSHE|cKU
cER|cES|cTE|cU|cEKS|cPHE|cKHE|cEF|cERS|cCHE|cII|cUU|cESS|bNUMERAL ONE|cFIVE|cTEN|cFIFTY
1032D:bLETTER YE|cNORTHERN TSE|cSOUTHERNa|GOTHIC LETTER AHSA|bBAIRKAN|bGIBA|bDAGS|bAIHVUS
bQAIRTHRA|bIUJA|bHAGL|bTHIUTH|bEIS|bKUSMA|bLAGUS|bMANNA|bNAUTHS|bJER|bURUS|bPAIRTHRA|bNINETY
bRAIDA|bSAUIL|bTEIWS|bWINJA|bFAIHU|bIGGWS|bHWAIR|bOTHAL|bNINE HUNDRED|10350:OLD PERMIC LETTER AN
cBUR|cGAI|cDOI|cE|cZHOI|cDZHOI|cZATA|cDZITA|cI|cKOKE|cLEI|cMENOE|cNENOE|cVOOI|cPEEI|cREI|cSII|cTAI
cU|cCHERY|cSHOOI|cSHCHOOI|cYRY|cYERU|cO|cOO|cEF|cHA|cTSIU|cVER|cYER|cYERI|cYAT|cIE|cYU|cYA|cIA
COMBINING OLD PERMIC LETTER AN|dDOI|dZATA|dNENOE|dSII|10380:UGARITIC LETTER ALPA|bBETA|bGAMLA|bKHA
bDELTA|bHO|bWO|bZETA|bHOTA|bTET|bYOD|bKAF|bSHIN|bLAMDA|bMEM|bDHAL|bNUN|bZU|bSAMKA|bAIN|bPU|bSADE
bQOPA|bRASHA|bTHANNA|bGHAIN|bTO|bI|bU|bSSU|1039F:aWORD DIVIDER|OLD PERSIAN SIGN A|cI|cU|cKA|cKU
cGA|cGU|cXA|cCA|cJA|cJI|cTA|cTU|cDA|cDI|cDU|cTHA|cPA|cBA|cFA|cNA|cNU|cMA|cMI|cMU|cYA|cVA|cVI|cRA
cRU|cLA|cSA|cZA|cSHA|cSSA|cHA|103C8:cAURAMAZDAA|cAURAMAZDAA-2|cAURAMAZDAAHA|cXSHAAYATHIYA
cDAHYAAUSH|cDAHYAAUSH-2|cBAGA|cBUUMISH|bWORD DIVIDER|bNUMBER ONE|cTWO|cTEN|cTWENTY|cHUNDRED
10400:DESERET CAPITAL LETTER LONG I|dE|dA|dAH|dO|dOO|cSHORT I|dE|dA|dAH|dO|dOO|cAY|cOW|cWU|cYEE|cH
cPEE|cBEE|cTEE|cDEE|cCHEE|cJEE|cKAY|cGAY|cEF|cVEE|cETH|cTHEE|cES|cZEE|cESH|cZHEE|cER|cEL|cEM|cEN
cENG|cOI|cEW|aSMALL LETTER LONG I|dE|dA|dAH|dO|dOO|cSHORT I|dE|dA|dAH|dO|dOO|cAY|cOW|cWU|cYEE|cH
cPEE|cBEE|cTEE|cDEE|cCHEE|cJEE|cKAY|cGAY|cEF|cVEE|cETH|cTHEE|cES|cZEE|cESH|cZHEE|cER|cEL|cEM|cEN
cENG|cOI|cEW|SHAVIAN LETTER PEEP|bTOT|bKICK|bFEE|bTHIGH|bSO|bSURE|bCHURCH|bYEA|bHUNG|bBIB|bDEAD
bGAG|bVOW|bTHEY|bZOO|bMEASURE|bJUDGE|bWOE|bHA-HA|bLOLL|bMIME|bIF|bEGG|bASH|bADO|bON|bWOOL|bOUT|bAH
bROAR|bNUN|bEAT|bAGE|bICE|bUP|bOAK|bOOZE|bOIL|bAWE|bARE|bOR|bAIR|bERR|bARRAY|bEAR|bIAN|bYEW
OSMANYA LETTER ALEF|bBA|bTA|bJA|bXA|bKHA|bDEEL|bRA|bSA|bSHIIN|bDHA|bCAYN|bGA|bFA|bQAAF|bKAAF|bLAAN
bMIIN|bNUUN|bWAW|bHA|bYA|bA|bE|bI|bO|bU|bAA|bEE|bOO|104A0:aDIGIT ZERO|bONE|bTWO|bTHREE|bFOUR|bFIVE
bSIX|bSEVEN|bEIGHT|bNINE|104B0:OSAGE CAPITAL LETTER A|cAI|cAIN|cAH|cBRA|cCHA|cEHCHA|cE|cEIN|cHA
cHYA|cI|cKA|cEHKA|cKYA|cLA|cMA|cNA|cO|cOIN|cPA|cEHPA|cSA|cSHA|cTA|cEHTA|cTSA|cEHTSA|cTSHA|cDHA|cU
cWA|cKHA|cGHA|cZA|cZHA|104D8:aSMALL LETTER A|cAI|cAIN|cAH|cBRA|cCHA|cEHCHA|cE|cEIN|cHA|cHYA|cI|cKA
cEHKA|cKYA|cLA|cMA|cNA|cO|cOIN|cPA|cEHPA|cSA|cSHA|cTA|cEHTA|cTSA|cEHTSA|cTSHA|cDHA|cU|cWA|cKHA
cGHA|cZA|cZHA|10500:ELBASAN LETTER A|bBE|bCE|bCHE|bDE|bNDE|bDHE|bEI|bE|bFE|bGE|bGJE|bHE|bI|bJE|bKE
bLE|bLLE|bME|bNE|bNA|bNJE|bO|bPE|bQE|bRE|bRRE|bSE|bSHE|bTE|bTHE|bU|bVE|bXE|bY|bZE|bZHE|bGHE
bGHAMMA|bKHE|10530:CAUCASIAN ALBANIAN LETTER ALT|cBET|cGIM|cDAT|cEB|cZARL|cEYN|cZHIL|cTAS|cCHA
cYOWD|cZHA|cIRB|cSHA|cLAN|cINYA|cXEYN|cDYAN|cCAR|cJHOX|cKAR|cLYIT|cHEYT|cQAY|cAOR|cCHOY|cCHI|cCYAY
cMAQ|cQAR|cNOWC|cDZYAY|cSHAK|cJAYN|cON|cTYAY|cFAM|cDZAY|cCHAT|cPEN|cGHEYS|cRAT|cSEYK|cVEYZ|cTIWR
cSHOY|cIWN|cCYAW|cCAYN|cYAYD|cPIWR|cKIW|1056F:bCITATION MARK|VITHKUQI CAPITAL LETTER A|cBBE|cBE
cCE|cCHE|cDE|cDHE|cEI|cE|cFE|cGA|1057C:cHA|cHHA|cI|cIJE|cJE|cKA|cLA|cLLA|cME|cNE|cNJE|cO|cPE|cQA
cRE|1058C:cSE|cSHE|cTE|cTHE|cU|cVE|cXE|10594:cY|cZE|10597:aSMALL LETTER A|cBBE|cBE|cCE|cCHE|cDE
cDHE|cEI|cE|cFE|cGA|105A3:cHA|cHHA|cI|cIJE|cJE|cKA|cLA|cLLA|cME|cNE|cNJE|cO|cPE|cQA|cRE|105B3:cSE
cSHE|cTE|cTHE|cU|cVE|cXE|105BB:cY|cZE|10600:LINEAR A SIGN AB001|+10|cAB013|cAB016|+1|cAB020|+1
cAB021F|cAB021M|cAB022|cAB022F|cAB022M|cAB023|cAB023M|cAB024|cAB026|+2|cA028B|cAB029|+2|cAB034
cAB037|+4|cAB044|+7|cAB053|+8|cAB065|+2|cAB069|+1|cAB073|+1|cAB076|+6|cAB085|+2|cA100-102|cAB118
cAB120|cA120B|cAB122|+1|cAB131A|cAB131B|cA131C|cAB164|cAB171|cAB180|cAB188|cAB191|cA301|+7|cA309A
cA309B|cA309C|cA310|+2|cA313A|cA313B|cA313C|cA314|+57|cA400-VAS|cA401-VAS|cA402-VAS|cA403-VAS
cA404-VAS|cA405-VAS|cA406-VAS|cA407-VAS|cA408-VAS|cA409-VAS|cA410-VAS|cA411-VAS|cA412-VAS
cA413-VAS|cA414-VAS|cA415-VAS|cA416-VAS|cA417-VAS|cA418-VAS|cA501|+5|cA508|+5|cA515|+1|cA520|+1
cA523|+9|cA534|+8|cA545|cA547|+10|cA559|cA563|+3|cA568|+21|cA591|+1|cA594|+2|cA598|cA600|+4|cA606
cA608|+16|cA626|+3|cA634|cA637|+1|cA640|cA642|+4|cA648|+1|cA651|+13|10740:cA701 A|cA702 B|cA703 D
cA704 E|cA705 F|cA706 H|cA707 J|cA708 K|cA709 L|cA709-2 L2|cA709-3 L3|cA709-4 L4|cA709-6 L6
cA710 W|cA711 X|cA712 Y|cA713 OMEGA|cA714 ABB|cA715 BB|cA717 DD|cA726 EYYY|cA732 JE|10760:cA800|+7
10780:MODIFIER LETTER SMALL CAPITAL AA|bSUPERSCRIPT TRIANGULAR COLON|cHALFb|bSMALL AE|cCAPITAL B
cB WITH HOOK|10787:cDZ DIGRAPH|eWITH RETROFLEX HOOK|fCURL|cDEZH DIGRAPH|cD WITH TAIL|eHOOK
fAND TAIL|cREVERSED E|cCLOSED REVERSED OPENa|cFENG DIGRAPH|cRAMS HORN|cCAPITAL G|cG WITH HOOK
cCAPITALc|cH WITH STROKE|cCAPITAL H|cHENG WITH HOOK|cDOTLESS J WITH STROKE ANDa|cLS DIGRAPH|cLZa
cL WITH BELT|cCAPITALc|cL WITH RETROFLEX HOOK ANDa|cLEZH|dWITH RETROFLEX HOOK|cTURNED Y|eWITH BELT
cO WITH STROKE|cCAPITAL OE|cCLOSED OMEGA|cQ|cTURNED R WITH LONG LEG|hAND RETROFLEX HOOK
cR WITH TAIL|eFISHHOOK|cCAPITAL R|cTC DIGRAPH WITH CURL|cTS DIGRAPH|eWITH RETROFLEX HOOK
cTESH DIGRAPH|cT WITH RETROFLEX HOOK|cV WITH RIGHTa|107B2:cCAPITAL Y|bGLOTTAL STOP WITH STROKE
bREVERSEDd|bBILABIAL CLICK|bDENTALa|bLATERALa|bALVEOLARa|bRETROFLEX CLICK WITH RETROFLEX HOOK
bSMALL S WITH CURL|10800:CYPRIOT SYLLABLE A|bE|bI|bO|bU|bJA|10808:bJO|1080A:bKA|bKE|bKI|bKO|bKU
bLA|bLE|bLI|bLO|bLU|bMA|bME|bMI|bMO|bMU|bNA|bNE|bNI|bNO|bNU|bPA|bPE|bPI|bPO|bPU|bRA|bRE|bRI|bRO
bRU|bSA|bSE|bSI|bSO|bSU|bTA|bTE|bTI|bTO|bTU|bWA|bWE|bWI|bWO|10837:bXA|bXE|1083C:bZA|1083F:bZO
IMPERIAL ARAMAIC LETTER ALEPH|cBETH|cGIMEL|cDALETH|cHE|cWAW|cZAYIN|cHETH|cTETH|cYODH|cKAPH|cLAMEDH
cMEM|cNUN|cSAMEKH|cAYIN|cPE|cSADHE|cQOPH|cRESH|cSHIN|cTAW|10857:bSECTION SIGN|bNUMBER ONE|cTWO
cTHREE|cTEN|cTWENTY|cONE HUNDRED|dTHOUSAND|cTENa|PALMYRENE LETTER ALEPH|bBETH|bGIMEL|bDALETH|bHE
bWAW|bZAYIN|bHETH|bTETH|bYODH|bKAPH|bLAMEDH|bMEM|bFINAL NUN|bNUN|bSAMEKH|bAYIN|bPE|bSADHE|bQOPH
bRESH|bSHIN|bTAW|aLEFT-POINTING FLEURON|aRIGHT-POINTINGa|aNUMBER ONE|bTWO|bTHREE|bFOUR|bFIVE|bTEN
bTWENTY|NABATAEAN LETTER FINAL ALEPH|bALEPH|bFINAL BETH|bBETH|bGIMEL|bDALETH|bFINAL HE|bHE|bWAW
bZAYIN|bHETH|bTETH|bFINAL YODH|bYODH|bFINAL KAPH|bKAPH|bFINAL LAMEDH|bLAMEDH|bFINAL MEM|bMEM
bFINAL NUN|bNUN|bSAMEKH|bAYIN|bPE|bSADHE|bQOPH|bRESH|bFINAL SHIN|bSHIN|bTAW|108A7:aNUMBER ONE|bTWO
bTHREE|bFOUR|aCRUCIFORMb|aNUMBER FIVE|bTEN|bTWENTY|bONE HUNDRED|108E0:HATRAN LETTER ALEPH|bBETH
bGIMEL|bDALETH-RESH|bHE|bWAW|bZAYN|bHETH|bTETH|bYODH|bKAPH|bLAMEDH|bMEM|bNUN|bSAMEKH|bAYN|bPE
bSADHE|bQOPH|108F4:bSHIN|bTAW|108FB:aNUMBER ONE|bFIVE|bTEN|bTWENTY|bONE HUNDRED
PHOENICIAN LETTER ALF|bBET|bGAML|bDELT|bHE|bWAU|bZAI|bHET|bTET|bYOD|bKAF|bLAMD|bMEM|bNUN|bSEMK
bAIN|bPE|bSADE|bQOF|bROSH|bSHIN|bTAU|aNUMBER ONE|bTEN|bTWENTY|bONE HUNDRED|bTWO|bTHREE
1091F:aWORD SEPARATOR|LYDIAN LETTER A|bB|bG|bD|bE|bV|bI|bY|bK|bL|bM|bN|bO|bR|bSS|bT|bU|bF|bQ|bS
bTT|bAN|bEN|bLY|bNN|bC|1093F:aTRIANGULAR MARK|10980:MEROITIC HIEROGLYPHIC LETTER A|cE|cI|cO|cYA
cWA|cBA|cBA-2|cPA|cMA|cNA|cNA-2|cNE|cNE-2|cRA|cRA-2|cLA|cKHA|cHHA|cSA|cSA-2|cSE|cKA|cQA|cTA|cTA-2
cTE|cTE-2|cTO|cDA|bSYMBOL VIDJ|cVIDJ-2|aCURSIVE LETTER A|cE|cI|cO|cYA|cWA|cBA|cPA|cMA|cNA|cNE|cRA
cLA|cKHA|cHHA|cSA|cARCHAICa|cSE|cKA|cQA|cTA|cTE|cTO|cDA|109BC:bFRACTION ELEVEN TWELFTHS|cONE HALF
bLOGOGRAM RMT|cIMN|bNUMBER ONE|cTWO|cTHREE|cFOUR|cFIVE|cSIX|cSEVEN|cEIGHT|cNINE|cTEN|cTWENTY
cTHIRTY|cFORTY|cFIFTY|cSIXTY|cSEVENTY|109D2:cONE HUNDRED|cTWOa|cTHREEa|cFOURa|cFIVEa|cSIXa|cSEVENa
cEIGHTa|cNINEa|cONE THOUSAND|cTWOa|cTHREEa|cFOURa|cFIVEa|cSIXa|cSEVENa|cEIGHTa|cNINEa|cTENa
cTWENTYa|cTHIRTYa|cFORTYa|cFIFTYa|cSIXTYa|cSEVENTYa|cEIGHTYa|cNINETYa|cONE HUNDREDa|cTWOb|cTHREEb
cFOURb|cFIVEb|cSIXb|cSEVENb|cEIGHTb|cNINEb|bFRACTION ONE TWELFTH|cTWO TWELFTHS|cTHREEa|cFOURa
cFIVEa|cSIXa|cSEVENa|cEIGHTa|cNINEa|cTENa|KHAROSHTHI LETTER A|aVOWEL SIGN I|cU|cVOCALIC R|10A05:cE
cO|10A0C:bLENGTH MARK|aSIGN DOUBLE RING BELOW|bANUSVARA|bVISARGA|aLETTER KA|bKHA|bGA|bGHA
10A15:bCA|bCHA|bJA|10A19:bNYA|bTTA|bTTHA|bDDA|bDDHA|bNNA|bTA|bTHA|bDA|bDHA|bNA|bPA|bPHA|bBA|bBHA
bMA|bYA|bRA|bLA|bVA|bSHA|bSSA|bSA|bZA|bHA|bKKA|bTTTHA|bTTTA|bVHA|10A38:aSIGN BAR ABOVE|bCAUDA
bDOT BELOW|10A3F:aVIRAMA|aDIGIT ONE|bTWO|bTHREE|bFOUR|aNUMBER TEN|bTWENTY|bONE HUNDRED|cTHOUSAND
aFRACTION ONE HALF|10A50:aPUNCTUATION DOT|bSMALL CIRCLE|bCIRCLE|bCRESCENT BAR|bMANGALAM|bLOTUS
bDANDA|bDOUBLEa|bLINES|10A60:OLD SOUTH ARABIAN LETTER HE|dLAMEDH|dHETH|dMEM|dQOPH|dWAW|dSHIN|dRESH
dBETH|dTAW|dSAT|dKAPH|dNUN|dKHETH|dSADHE|dSAMEKH|dFE|dALEF|dAYN|dDHADHE|dGIMEL|dDALETH|dGHAYN
dTETH|dZAYN|dDHALETH|dYODH|dTHAW|dTHETH|cNUMBER ONE|dFIFTY|cNUMERIC INDICATOR
aNORTH ARABIAN LETTER HEH|dLAM|dHAH|dMEEM|dQAF|dWAW|dES-2|dREH|dBEH|dTEH|dES-1|dKAF|dNOON|dKHAH
dSAD|dES-3|dFEH|dALEF|dAIN|dDAD|dGEEM|dDAL|dGHAIN|dTAH|dZAIN|dTHAL|dYEH|dTHEH|dZAH|cNUMBER ONE
dTEN|dTWENTY|10AC0:MANICHAEAN LETTER ALEPH|bBETH|bBHETH|bGIMEL|bGHIMEL|bDALETH|bHE|bWAW|aSIGN UD
aLETTER ZAYIN|bZHAYIN|bJAYIN|bJHAYIN|bHETH|bTETH|bYODH|bKAPH|bXAPH|bKHAPH|bLAMEDH|bDHAMEDH
bTHAMEDH|bMEM|bNUN|bSAMEKH|bAYIN|bAAYIN|bPE|bFE|bSADHE|bQOPH|bXOPH|bQHOPH|bRESH|bSHIN|bSSHIN|bTAW
aABBREVIATION MARK ABOVE|cBELOW|10AEB:aNUMBER ONE|bFIVE|bTEN|bTWENTY|bONE HUNDRED
aPUNCTUATION STAR|bFLEURON|bDOUBLE DOT WITHIN DOT|bDOTb|bDOT|bTWO DOTS|bLINE FILLER
10B00:AVESTAN LETTER A|bAA|bAO|bAAO|bAN|bAAN|bAE|bAEE|bE|bEE|bO|bOO|bI|bII|bU|bUU|bKE|bXE|bXYE
bXVE|bGE|bGGE|bGHE|bCE|bJE|bTE|bTHE|bDE|bDHE|bTTE|bPE|bFE|bBE|bBHE|bNGE|bNGYE|bNGVE|bNE|bNYE|bNNE
bME|bHME|bYYE|bYE|bVE|bRE|bLE|bSE|bZE|bSHE|bZHE|bSHYE|bSSHE|bHE|10B39:aABBREVIATION MARK
TINY TWO DOTS OVER ONE DOT PUNCTUATION|SMALLf|LARGEf|aONE DOT OVER TWO DOTSa
aTWO RINGS OVER ONE RINGa|aONE RING OVER TWO RINGSa|INSCRIPTIONAL PARTHIAN LETTER ALEPH|cBETH
cGIMEL|cDALETH|cHE|cWAW|cZAYIN|cHETH|cTETH|cYODH|cKAPH|cLAMEDH|cMEM|cNUN|cSAMEKH|cAYIN|cPE|cSADHE
cQOPH|cRESH|cSHIN|cTAW|10B58:bNUMBER ONE|cTWO|cTHREE|cFOUR|cTEN|cTWENTY|cONE HUNDRED|dTHOUSAND
aPAHLAVI LETTER ALEPH|cBETH|cGIMEL|cDALETH|cHE|cWAW-AYIN-RESH|cZAYIN|cHETH|cTETH|cYODH|cKAPH
cLAMEDH|cMEM-QOPH|cNUN|cSAMEKH|cPE|cSADHE|cSHIN|cTAW|10B78:bNUMBER ONE|cTWO|cTHREE|cFOUR|cTEN
cTWENTY|cONE HUNDRED|dTHOUSAND|PSALTER PAHLAVI LETTER ALEPH|cBETH|cGIMEL|cDALETH|cHE
cWAW-AYIN-RESH|cZAYIN|cHETH|cYODH|cKAPH|cLAMEDH|cMEM-QOPH|cNUN|cSAMEKH|cPE|cSADHE|cSHIN|cTAW
10B99:bSECTION MARK|bTURNEDb|bFOUR DOTS WITH CROSS|eDOT|10BA9:bNUMBER ONE|cTWO|cTHREE|cFOUR|cTEN
cTWENTY|cONE HUNDRED|10C00:OLD TURKIC LETTER ORKHON A|cYENISEIa|dAE|cORKHON I|cYENISEIa|dE
cORKHON O|dOE|cYENISEIa|cORKHON AB|cYENISEIa|cORKHON AEB|cYENISEIa|cORKHON AG|cYENISEIa
cORKHON AEG|cYENISEIa|cORKHON AD|cYENISEIa|cORKHON AED|dEZ|cYENISEIa|cORKHON AY|cYENISEIa
cORKHON AEY|cYENISEIa|cORKHON AEK|cYENISEIa|cORKHON OEK|cYENISEIa|cORKHON AL|cYENISEIa|cORKHON AEL
dELT|dEM|dAN|dAEN|cYENISEIa|cORKHON ENT|cYENISEIa|cORKHON ENC|cYENISEIa|cORKHON ENY|cYENISEIa|dANG
cORKHON ENG|cYENISEI AENG|cORKHON EP|dOP|dIC|dEC|cYENISEIa|cORKHON AQ|cYENISEIa|cORKHON IQ
cYENISEIa|cORKHON OQ|cYENISEIa|cORKHON AR|cYENISEIa|cORKHON AER|dAS|dAES|dASH|cYENISEIa
cORKHON ESH|cYENISEIa|cORKHON AT|cYENISEIa|cORKHON AET|cYENISEIa|cORKHON OT|dBASH
10C80:aHUNGARIAN CAPITAL LETTER A|dAA|dEB|dAMB|dEC|dENC|dECS|dED|dAND|dE|dCLOSEa|dEE|dEF|dEG|dEGY
dEH|dI|dII|dEJ|dEK|dAK|dUNK|dEL|dELY|dEM|dEN|dENY|dO|dOO|dNIKOLSBURG OE|dRUDIMENTAa|dOEE|dEP|dEMP
dER|dSHORTa|dES|dESZ|dET|dENT|dETY|dECH|dU|dUU|dNIKOLSBURG UE|dRUDIMENTAa|dEV|dEZ|dEZS
dENT-SHAPED SIGN|dUS|10CC0:bSMALL LETTER A|dAA|dEB|dAMB|dEC|dENC|dECS|dED|dAND|dE|dCLOSEa|dEE|dEF
dEG|dEGY|dEH|dI|dII|dEJ|dEK|dAK|dUNK|dEL|dELY|dEM|dEN|dENY|dO|dOO|dNIKOLSBURG OE|dRUDIMENTAa|dOEE
dEP|dEMP|dER|dSHORTa|dES|dESZ|dET|dENT|dETY|dECH|dU|dUU|dNIKOLSBURG UE|dRUDIMENTAa|dEV|dEZ|dEZS
dENT-SHAPED SIGN|dUS|10CFA:bNUMBER ONE|cFIVE|cTEN|cFIFTY|cONE HUNDRED|dTHOUSAND
HANIFI ROHINGYA LETTER A|cBA|cPA|cTA|cTTA|cJA|cCA|cHA|cKHA|cFA|cDA|cDDA|cRA|cRRA|cZA|cSA|cSHA|cKA
cGA|cLA|cMA|cNA|cWA|cKINNAa|cYA|cKINNAa|cNGA|cNYA|cVA|bVOWEL A|cI|cU|cE|cO|bMARK SAKIN|cNA KHONNA
bSIGN HARBAHAY|cTAHALA|cTANA|cTASSI|10D30:bDIGIT ZERO|cONE|cTWO|cTHREE|cFOUR|cFIVE|cSIX|cSEVEN
cEIGHT|cNINE|10E60:RUMI DIGIT ONE|bTWO|bTHREE|bFOUR|bFIVE|bSIX|bSEVEN|bEIGHT|bNINE|aNUMBER TEN
bTWENTY|bTHIRTY|bFORTY|bFIFTY|bSIXTY|bSEVENTY|bEIGHTY|bNINETY|bONE HUNDRED|bTWOa|bTHREEa|bFOURa
bFIVEa|bSIXa|bSEVENa|bEIGHTa|bNINEa|aFRACTION ONE HALF|cQUARTER|cTHIRD|bTWO THIRDS
10E80:YEZIDI LETTER ELIF|bBE|bPE|bPHE|bTHE|bSE|bCIM|bCHIM|bCHHIM|bHHA|bXA|bDAL|bZAL|bRA|bRHA|bZA
bJA|bSIN|bSHIN|bSAD|bDAD|bTA|bZE|bEYN|bXHEYN|bFA|bVA|cALTERNATE FORM|bQAF|bKAF|bKHAF|bGAF|bLAM
bMIM|bNUN|bUM|bWAW|bOW|bEW|bHAY|bYOT|bET|10EAB:aCOMBINING HAMZA MARK|bMADDAa|aHYPHENATIONa
10EB0:aLETTER LAM WITH DOT ABOVE|bYOT WITH CIRCUMFLEXa|10F00:OLD SOGDIAN LETTER ALEPH|cFINALa
cBETH|cFINALa|cGIMEL|cHE|cFINALa|cWAW|cZAYIN|cHETH|cYODH|cKAPH|cLAMEDH|cMEM|cNUN|cFINALa
eWITH VERTICAL TAIL|cSAMEKH|cAYIN|cALTERNATEa|cPE|cSADHE|cFINALa|eWITH VERTICAL TAIL
cRESH-AYIN-DALETH|cSHIN|cTAW|cFINALa|eWITH VERTICAL TAIL|bNUMBER ONE|cTWO|cTHREE|cFOUR|cFIVE|cTEN
cTWENTY|cTHIRTY|cONE HUNDRED|bFRACTION ONE HALF|bLIGATURE AYIN-DALETH|10F30:SOGDIAN LETTER ALEPH
bBETH|bGIMEL|bHE|bWAW|bZAYIN|bHETH|bYODH|bKAPH|bLAMEDH|bMEM|bNUN|bSAMEKH|bAYIN|bPE|bSADHE
bRESH-AYIN|bSHIN|bTAW|bFETH|bLESH|aINDEPENDENT SHIN|aCOMBINING DOT BELOW|bTWO DOTSa|bDOT ABOVE
bTWO DOTSa|bCURVEa|cBELOW|bHOOK ABOVE|cBELOW|bLONGb|bRESHa|bSTROKEa|aNUMBER ONE|bTEN|bTWENTY
bONE HUNDRED|aPUNCTUATION TWO VERTICAL BARS|eWITH DOTS|bCIRCLE WITH DOT|bTWO CIRCLES WITH DOTS
bHALF CIRCLE WITH DOT|10F70:OLD UYGHUR LETTER ALEPH|cBETH|cGIMEL-HETH|cWAW|cZAYIN|cFINAL HETH
cYODH|cKAPH|cLAMEDH|cMEM|cNUN|cSAMEKH|cPE|cSADHE|cRESH|cSHIN|cTAW|cLESH|bCOMBINING DOT ABOVE
dBELOW|cTWO DOTS ABOVE|eBELOW|bPUNCTUATION BAR|cTWO BARS|dDOTS|cFOURa
10FB0:CHORASMIAN LETTER ALEPH|bSMALLa|bBETH|bGIMEL|bDALETH|bHE|bWAW|bCURLEDa|bZAYIN|bHETH|bYODH
bKAPH|bLAMEDH|bMEM|bNUN|bSAMEKH|bAYIN|bPE|bRESH|bSHIN|bTAW|aNUMBER ONE|bTWO|bTHREE|bFOUR|bTEN
bTWENTY|bONE HUNDRED|10FE0:ELYMAIC LETTER ALEPH|bBETH|bGIMEL|bDALETH|bHE|bWAW|bZAYIN|bHETH|bTETH
bYODH|bKAPH|bLAMEDH|bMEM|bNUN|bSAMEKH|bAYIN|bPE|bSADHE|bQOPH|bRESH|bSHIN|bTAW|aLIGATURE ZAYIN-YODH
11000:BRAHMI SIGN CANDRABINDU|bANUSVARA|bVISARGA|bJIHVAMULIYA|bUPADHMANIYA|aLETTER A|bAA|bI|bII|bU
bUU|bVOCALIC R|cRR|cL|cLL|bE|bAI|bO|bAU|bKA|bKHA|bGA|bGHA|bNGA|bCA|bCHA|bJA|bJHA|bNYA|bTTA|bTTHA
bDDA|bDDHA|bNNA|bTA|bTHA|bDA|bDHA|bNA|bPA|bPHA|bBA|bBHA|bMA|bYA|bRA|bLA|bVA|bSHA|bSSA|bSA|bHA|bLLA
bOLD TAMIL LLLA|dRRA|dNNNA|aVOWEL SIGN AA|cBHATTIPROLUa|cI|cII|cU|cUU|cVOCALIC R|dRR|dL|dLL|cE|cAI
cO|cAU|aVIRAMA|aDANDA|aDOUBLEa|aPUNCTUATION DOT|bDOUBLEa|bLINE|bCRESCENT BAR|bLOTUS
11052:aNUMBER ONE|bTWO|bTHREE|bFOUR|bFIVE|bSIX|bSEVEN|bEIGHT|bNINE|bTEN|bTWENTY|bTHIRTY|bFORTY
bFIFTY|bSIXTY|bSEVENTY|bEIGHTY|bNINETY|bONE HUNDRED|cTHOUSAND|aDIGIT ZERO|bONE|bTWO|bTHREE|bFOUR
bFIVE|bSIX|bSEVEN|bEIGHT|bNINE|aSIGN OLD TAMIL VIRAMA|aLETTER OLD TAMIL SHORT E|eO
aVOWEL SIGN OLD TAMIL SHORT E|fO|aLETTER OLD TAMIL LLA|1107F:aNUMBER JOINER
KAITHI SIGN CANDRABINDU|bANUSVARA|bVISARGA|aLETTER A|bAA|bI|bII|bU|bUU|bE|bAI|bO|bAU|bKA|bKHA|bGA
bGHA|bNGA|bCA|bCHA|bJA|bJHA|bNYA|bTTA|bTTHA|bDDA|bDDDHA|bDDHA|bRHA|bNNA|bTA|bTHA|bDA|bDHA|bNA|bPA
bPHA|bBA|bBHA|bMA|bYA|bRA|bLA|bVA|bSHA|bSSA|bSA|bHA|aVOWEL SIGN AA|cI|cII|cU|cUU|cE|cAI|cO|cAU
aSIGN VIRAMA|bNUKTA|aABBREVIATION SIGN|aENUMERATIONa|aNUMBERa|aSECTION MARK|aDOUBLEb|aDANDA
aDOUBLEa|aVOWEL SIGN VOCALIC R|110CD:aNUMBER SIGN ABOVE|110D0:SORA SOMPENG LETTER SAH|cTAH|cBAH
cCAH|cDAH|cGAH|cMAH|cNGAH|cLAH|cNAH|cVAH|cPAH|cYAH|cRAH|cHAH|cKAH|cJAH|cNYAH|cAH|cEEH|cIH|cUH|cOH
cEH|cMAE|110F0:bDIGIT ZERO|cONE|cTWO|cTHREE|cFOUR|cFIVE|cSIX|cSEVEN|cEIGHT|cNINE
11100:CHAKMA SIGN CANDRABINDU|bANUSVARA|bVISARGA|aLETTER AA|bI|bU|bE|bKAA|bKHAA|bGAA|bGHAA|bNGAA
bCAA|bCHAA|bJAA|bJHAA|bNYAA|bTTAA|bTTHAA|bDDAA|bDDHAA|bNNAA|bTAA|bTHAA|bDAA|bDHAA|bNAA|bPAA|bPHAA
bBAA|bBHAA|bMAA|bYYAA|bYAA|bRAA|bLAA|bWAA|bSAA|bHAA|aVOWEL SIGN A|cI|cII|cU|cUU|cE|cAI|cO|cAU|cOI
aO MARK|aAUa|aVIRAMA|aMAAYYAA|11136:aDIGIT ZERO|bONE|bTWO|bTHREE|bFOUR|bFIVE|bSIX|bSEVEN|bEIGHT
bNINE|aSECTION MARK|aDANDA|aDOUBLEa|aQUESTION MARK|aLETTER LHAA|aVOWEL SIGN AA|cEI|aLETTER VAA
11150:MAHAJANI LETTER A|bI|bU|bE|bO|bKA|bKHA|bGA|bGHA|bCA|bCHA|bJA|bJHA|bNYA|bTTA|bTTHA|bDDA|bDDHA
bNNA|bTA|bTHA|bDA|bDHA|bNA|bPA|bPHA|bBA|bBHA|bMA|bRA|bLA|bVA|bSA|bHA|bRRA|aSIGN NUKTA
aABBREVIATION SIGN|aSECTION MARK|aLIGATURE SHRI|11180:SHARADA SIGN CANDRABINDU|bANUSVARA|bVISARGA
aLETTER A|bAA|bI|bII|bU|bUU|bVOCALIC R|cRR|cL|cLL|bE|bAI|bO|bAU|bKA|bKHA|bGA|bGHA|bNGA|bCA|bCHA
bJA|bJHA|bNYA|bTTA|bTTHA|bDDA|bDDHA|bNNA|bTA|bTHA|bDA|bDHA|bNA|bPA|bPHA|bBA|bBHA|bMA|bYA|bRA|bLA
bLLA|bVA|bSHA|bSSA|bSA|bHA|aVOWEL SIGN AA|cI|cII|cU|cUU|cVOCALIC R|dRR|dL|dLL|cE|cAI|cO|cAU
aSIGN VIRAMA|bAVAGRAHA|bJIHVAMULIYA|bUPADHMANIYA|aOM|aDANDA|aDOUBLEa|aABBREVIATION SIGN|aSEPARATOR
aSANDHI MARK|aSIGN NUKTA|aVOWEL MODIFIER MARK|aEXTRA SHORT VOWELa|aSUTRAa
aVOWEL SIGN PRISHTHAMATRA E|aSIGN INVERTED CANDRABINDU|aDIGIT ZERO|bONE|bTWO|bTHREE|bFOUR|bFIVE
bSIX|bSEVEN|bEIGHT|bNINE|aEKAM|aSIGN SIDDHAM|aHEADSTROKE|aCONTINUATION SIGN|aSECTION MARK-1|+1
111E1:SINHALA ARCHAIC DIGIT ONE|cTWO|cTHREE|cFOUR|cFIVE|cSIX|cSEVEN|cEIGHT|cNINE|bNUMBER TEN
cTWENTY|cTHIRTY|cFORTY|cFIFTY|cSIXTY|cSEVENTY|cEIGHTY|cNINETY|cONE HUNDRED|dTHOUSAND
11200:KHOJKI LETTER A|bAA|bI|bU|bE|bAI|bO|bAU|bKA|bKHA|bGA|bGGA|bGHA|bNGA|bCA|bCHA|bJA|bJJA
11213:bNYA|bTTA|bTTHA|bDDA|bDDHA|bNNA|bTA|bTHA|bDA|bDDDA|bDHA|bNA|bPA|bPHA|bBA|bBBA|bBHA|bMA|bYA
bRA|bLA|bVA|bSA|bHA|bLLA|aVOWEL SIGN AA|cI|cII|cU|cE|cAI|cO|cAU|aSIGN ANUSVARA|bVIRAMA|bNUKTA
bSHADDA|aDANDA|aDOUBLEa|aWORD SEPARATOR|aSECTION MARK|aDOUBLEb|aABBREVIATION SIGN|aSIGN SUKUN
11280:MULTANI LETTER A|bI|bU|bE|bKA|bKHA|bGA|11288:bGHA|1128A:bCA|bCHA|bJA|bJJA|1128F:bNYA|bTTA
bTTHA|bDDA|bDDDA|bDDHA|bNNA|bTA|bTHA|bDA|bDHA|bNA|bPA|bPHA|bBA|1129F:bBHA|bMA|bYA|bRA|bLA|bVA|bSA
bHA|bRRA|bRHA|aSECTION MARK|112B0:KHUDAWADI LETTER A|bAA|bI|bII|bU|bUU|bE|bAI|bO|bAU|bKA|bKHA|bGA
bGGA|bGHA|bNGA|bCA|bCHA|bJA|bJJA|bJHA|bNYA|bTTA|bTTHA|bDDA|bDDDA|bRRA|bDDHA|bNNA|bTA|bTHA|bDA|bDHA
bNA|bPA|bPHA|bBA|bBBA|bBHA|bMA|bYA|bRA|bLA|bVA|bSHA|bSA|bHA|aSIGN ANUSVARA|aVOWEL SIGN AA|cI|cII
cU|cUU|cE|cAI|cO|cAU|aSIGN NUKTA|bVIRAMA|112F0:aDIGIT ZERO|bONE|bTWO|bTHREE|bFOUR|bFIVE|bSIX
bSEVEN|bEIGHT|bNINE|11300:GRANTHA SIGN COMBINING ANUSVARA ABOVE|bCANDRABINDU|bANUSVARA|bVISARGA
11305:aLETTER A|bAA|bI|bII|bU|bUU|bVOCALIC R|cL|1130F:bEE|bAI|11313:bOO|bAU|bKA|bKHA|bGA|bGHA|bNGA
bCA|bCHA|bJA|bJHA|bNYA|bTTA|bTTHA|bDDA|bDDHA|bNNA|bTA|bTHA|bDA|bDHA|bNA|1132A:bPA|bPHA|bBA|bBHA
bMA|bYA|bRA|11332:bLA|bLLA|11335:bVA|bSHA|bSSA|bSA|bHA|1133B:COMBINING BINDU BELOW
GRANTHA SIGN NUKTA|bAVAGRAHA|aVOWEL SIGN AA|cI|cII|cU|cUU|cVOCALIC R|dRR|11347:cEE|cAI|1134B:cOO
cAU|aSIGN VIRAMA|11350:aOM|11357:aAU LENGTH MARK|1135D:aSIGN PLUTA|aLETTER VEDIC ANUSVARA|cDOUBLEa
bVOCALIC RR|cLL|aVOWEL SIGN VOCALIC L|dLL|11366:COMBINING GRANTHA DIGIT ZERO|cONE|cTWO|cTHREE
cFOUR|cFIVE|cSIX|11370:bLETTER A|cKA|cNA|cVI|cPA|11400:NEWA LETTER A|bAA|bI|bII|bU|bUU|bVOCALIC R
cRR|cL|cLL|bE|bAI|bO|bAU|bKA|bKHA|bGA|bGHA|bNGA|bNGHA|bCA|bCHA|bJA|bJHA|bNYA|bNYHA|bTTA|bTTHA|bDDA
bDDHA|bNNA|bTA|bTHA|bDA|bDHA|bNA|bNHA|bPA|bPHA|bBA|bBHA|bMA|bMHA|bYA|bRA|bRHA|bLA|bLHA|bWA|bSHA
bSSA|bSA|bHA|aVOWEL SIGN AA|cI|cII|cU|cUU|cVOCALIC R|dRR|dL|dLL|cE|cAI|cO|cAU|aSIGN VIRAMA
bCANDRABINDU|bANUSVARA|bVISARGA|bNUKTA|bAVAGRAHA|bFINAL ANUSVARA|aOM|aSIDDHI|aDANDA|aDOUBLEa
aCOMMA|aGAP FILLER|aABBREVIATION SIGN|aDIGIT ZERO|bONE|bTWO|bTHREE|bFOUR|bFIVE|bSIX|bSEVEN|bEIGHT
bNINE|aDOUBLE COMMA|aPLACEHOLDER MARK|1145D:aINSERTION SIGN|aSANDHI MARK|aLETTER VEDIC ANUSVARA
aSIGN JIHVAMULIYA|bUPADHMANIYA|11480:TIRHUTA ANJI|aLETTER A|bAA|bI|bII|bU|bUU|bVOCALIC R|cRR|cL
cLL|bE|bAI|bO|bAU|bKA|bKHA|bGA|bGHA|bNGA|bCA|bCHA|bJA|bJHA|bNYA|bTTA|bTTHA|bDDA|bDDHA|bNNA|bTA
bTHA|bDA|bDHA|bNA|bPA|bPHA|bBA|bBHA|bMA|bYA|bRA|bLA|bVA|bSHA|bSSA|bSA|bHA|aVOWEL SIGN AA|cI|cII|cU
cUU|cVOCALIC R|dRR|dL|dLL|cE|cSHORTa|cAI|cO|cSHORTa|cAU|aSIGN CANDRABINDU|bANUSVARA|bVISARGA
bVIRAMA|bNUKTA|bAVAGRAHA|aGVANG|aABBREVIATION SIGN|aOM|114D0:aDIGIT ZERO|bONE|bTWO|bTHREE|bFOUR
bFIVE|bSIX|bSEVEN|bEIGHT|bNINE|11580:SIDDHAM LETTER A|bAA|bI|bII|bU|bUU|bVOCALIC R|cRR|cL|cLL|bE
bAI|bO|bAU|bKA|bKHA|bGA|bGHA|bNGA|bCA|bCHA|bJA|bJHA|bNYA|bTTA|bTTHA|bDDA|bDDHA|bNNA|bTA|bTHA|bDA
bDHA|bNA|bPA|bPHA|bBA|bBHA|bMA|bYA|bRA|bLA|bVA|bSHA|bSSA|bSA|bHA|aVOWEL SIGN AA|cI|cII|cU|cUU
cVOCALIC R|dRR|115B8:cE|cAI|cO|cAU|aSIGN CANDRABINDU|bANUSVARA|bVISARGA|bVIRAMA|bNUKTA|bSIDDHAM
aDANDA|aDOUBLEa|aSEPARATOR DOT|bBAR|aREPETITION MARK-1|+2|aEND OF TEXT MARK
aSECTION MARK WITH TRIDENT AND U-SHAPED ORNAMENTS|fDOTTED CRESCENTS|dRAYSc|gDOUBLEa|gTRIPLEa
cDOUBLE RING|eWITH RAYS|cWITH DOUBLE CRESCENTS|dTRIPLEa|dQUADRUPLEa|dSEPTUPLEa|dCIRCLES AND RAYS
fTWO ENCLOSURES|fFOURa|aLETTER THREE-CIRCLE ALTERNATE I|bTWO-CIRCLEb|dII|bALTERNATE U|aVOWEL SIGNb
dUU|11600:MODI LETTER A|bAA|bI|bII|bU|bUU|bVOCALIC R|cRR|cL|cLL|bE|bAI|bO|bAU|bKA|bKHA|bGA|bGHA
bNGA|bCA|bCHA|bJA|bJHA|bNYA|bTTA|bTTHA|bDDA|bDDHA|bNNA|bTA|bTHA|bDA|bDHA|bNA|bPA|bPHA|bBA|bBHA|bMA
bYA|bRA|bLA|bVA|bSHA|bSSA|bSA|bHA|bLLA|aVOWEL SIGN AA|cI|cII|cU|cUU|cVOCALIC R|dRR|dL|dLL|cE|cAI
cO|cAU|aSIGN ANUSVARA|bVISARGA|bVIRAMA|bARDHACANDRA|aDANDA|aDOUBLEa|aABBREVIATION SIGN|aSIGN HUVA
11650:aDIGIT ZERO|bONE|bTWO|bTHREE|bFOUR|bFIVE|bSIX|bSEVEN|bEIGHT|bNINE
11660:MONGOLIAN BIRGA WITH ORNAMENT|aROTATED BIRGA|aDOUBLE BIRGA WITH ORNAMENT|aTRIPLEc
aBIRGA WITH DOUBLEa|aROTATED BIRGA WITHa|dDOUBLEa|aINVERTED BIRGA|cWITH DOUBLE ORNAMENT
aSWIRL BIRGA|cWITH ORNAMENT|dDOUBLEa|aTURNEDe|11680:TAKRI LETTER A|bAA|bI|bII|bU|bUU|bE|bAI|bO|bAU
bKA|bKHA|bGA|bGHA|bNGA|bCA|bCHA|bJA|bJHA|bNYA|bTTA|bTTHA|bDDA|bDDHA|bNNA|bTA|bTHA|bDA|bDHA|bNA|bPA
bPHA|bBA|bBHA|bMA|bYA|bRA|bLA|bVA|bSHA|bSA|bHA|bRRA|aSIGN ANUSVARA|bVISARGA|aVOWEL SIGN AA|cI|cII
cU|cUU|cE|cAI|cO|cAU|aSIGN VIRAMA|bNUKTA|aLETTER ARCHAIC KHA|aABBREVIATION SIGN|116C0:aDIGIT ZERO
bONE|bTWO|bTHREE|bFOUR|bFIVE|bSIX|bSEVEN|bEIGHT|bNINE|11700:AHOM LETTER KA|bKHA|bNGA|bNA|bTA
bALTERNATEa|bPA|bPHA|bBA|bMA|bJA|bCHA|bTHA|bRA|bLA|bSA|bNYA|bHA|bA|bDA|bDHA|bGA|bALTERNATEa|bGHA
bBHA|bJHA|bALTERNATE BA|1171D:aCONSONANT SIGN MEDIAL LA|dRA|dLIGATINGa|aVOWEL SIGN A|cAA|cI|cII|cU
cUU|cE|cAW|cO|cAI|cAM|aSIGN KILLER|11730:aDIGIT ZERO|bONE|bTWO|bTHREE|bFOUR|bFIVE|bSIX|bSEVEN
bEIGHT|bNINE|aNUMBER TEN|bTWENTY|aSIGN SMALL SECTION|bSECTION|bRULAI|aSYMBOL VI|aLETTER CA|bTTA
bTTHA|bDDA|bDDHA|bNNA|bLLA|11800:DOGRA LETTER A|bAA|bI|bII|bU|bUU|bE|bAI|bO|bAU|bKA|bKHA|bGA|bGHA
bNGA|bCA|bCHA|bJA|bJHA|bNYA|bTTA|bTTHA|bDDA|bDDHA|bNNA|bTA|bTHA|bDA|bDHA|bNA|bPA|bPHA|bBA|bBHA|bMA
bYA|bRA|bLA|bVA|bSHA|bSSA|bSA|bHA|bRRA|aVOWEL SIGN AA|cI|cII|cU|cUU|cVOCALIC R|dRR|cE|cAI|cO|cAU
aSIGN ANUSVARA|bVISARGA|bVIRAMA|bNUKTA|aABBREVIATION SIGN|118A0:WARANG CITI CAPITAL LETTER NGAA|dA
dWI|dYU|dYA|dYO|dII|dUU|dE|dO|dANG|dGA|dKO|dENY|dYUJ|dUC|dENN|dODD|dTTE|dNUNG|dDA|dAT|dAM|dBU|dPU
dHIYO|dHOLO|dHORR|dHAR|dSSUU|dSII|dVIYO|bSMALL LETTER NGAA|dA|dWI|dYU|dYA|dYO|dII|dUU|dE|dO|dANG
dGA|dKO|dENY|dYUJ|dUC|dENN|dODD|dTTE|dNUNG|dDA|dAT|dAM|dBU|dPU|dHIYO|dHOLO|dHORR|dHAR|dSSUU|dSII
dVIYO|bDIGIT ZERO|cONE|cTWO|cTHREE|cFOUR|cFIVE|cSIX|cSEVEN|cEIGHT|cNINE|bNUMBER TEN|cTWENTY
cTHIRTY|cFORTY|cFIFTY|cSIXTY|cSEVENTY|cEIGHTY|cNINETY|118FF:bOM|DIVES AKURU LETTER A|cAA|cI|cII|cU
cUU|cE|11909:cO|1190C:cKA|cKHA|cGA|cGHA|cNGA|cCA|cCHA|cJA|11915:cNYA|cTTA|11918:cDDA|cDDHA|cNNA
cTA|cTHA|cDA|cDHA|cNA|cPA|cPHA|cBA|cBHA|cMA|cYA|cYYA|cRA|cLA|cVA|cSHA|cSSA|cSA|cHA|cLLA|cZA
bVOWEL SIGN AA|dI|dII|dU|dUU|dE|11937:dAI|dO|1193B:bSIGN ANUSVARA|cCANDRABINDU|cHALANTA|bVIRAMA
bPREFIXED NASAL SIGN|bMEDIAL YA|bINITIAL RA|bMEDIALa|bSIGN NUKTA|bDOUBLE DANDA|bGAP FILLER
bEND OF TEXT MARK|11950:bDIGIT ZERO|cONE|cTWO|cTHREE|cFOUR|cFIVE|cSIX|cSEVEN|cEIGHT|cNINE
119A0:NANDINAGARI LETTER A|bAA|bI|bII|bU|bUU|bVOCALIC R|cRR|119AA:bE|bAI|bO|bAU|bKA|bKHA|bGA|bGHA
bNGA|bCA|bCHA|bJA|bJHA|bNYA|bTTA|bTTHA|bDDA|bDDHA|bNNA|bTA|bTHA|bDA|bDHA|bNA|bPA|bPHA|bBA|bBHA|bMA
bYA|bRA|bLA|bVA|bSHA|bSSA|bSA|bHA|bLLA|bRRA|aVOWEL SIGN AA|cI|cII|cU|cUU|cVOCALIC R|dRR|119DA:cE
cAI|cO|cAU|aSIGN ANUSVARA|bVISARGA|bVIRAMA|bAVAGRAHA|bSIDDHAM|aHEADSTROKE
aVOWEL SIGN PRISHTHAMATRA E|11A00:ZANABAZAR SQUARE LETTER A|bVOWEL SIGN I|dUE|dU|dE|dOE|dO|dAI|dAU
dREVERSED I|cLENGTH MARK|bLETTER KA|cKHA|cGA|cGHA|cNGA|cCA|cCHA|cJA|cNYA|cTTA|cTTHA|cDDA|cDDHA
cNNA|cTA|cTHA|cDA|cDHA|cNA|cPA|cPHA|cBA|cBHA|cMA|cTSA|cTSHA|cDZA|cDZHA|cZHA|cZA|c-A|cYA|cRA|cLA
cVA|cSHA|cSSA|cSA|cHA|cKSSA|bFINAL CONSONANT MARK|bSIGN VIRAMA|cCANDRABINDU|dWITH ORNAMENT
cCANDRAb|cANUSVARA|cVISARGA|bCLUSTER-INITIAL LETTER RA|bCLUSTER-FINAL LETTER YA|dRA|dLA|dVA
bINITIAL HEAD MARK|bCLOSINGb|bMARK TSHEG|cSHAD|cDOUBLEa|cLONG TSHEG
bINITIAL DOUBLE-LINED HEAD MARK|bCLOSINGc|bSUBJOINER|11A50:SOYOMBO LETTER A|aVOWEL SIGN I|cUE|cU
cE|cO|cOE|cAI|cAU|cVOCALIC R|dL|bLENGTH MARK|aLETTER KA|bKHA|bGA|bGHA|bNGA|bCA|bCHA|bJA|bJHA|bNYA
bTTA|bTTHA|bDDA|bDDHA|bNNA|bTA|bTHA|bDA|bDHA|bNA|bPA|bPHA|bBA|bBHA|bMA|bTSA|bTSHA|bDZA|bZHA|bZA
b-A|bYA|bRA|bLA|bVA|bSHA|bSSA|bSA|bHA|bKSSA|aSIGN JIHVAMULIYA|bUPADHMANIYA
aCLUSTER-INITIAL LETTER RA|cLA|cSHA|cSA|aFINAL CONSONANT SIGN G|dK|dNG|dD|dN|dB|dM|dR|dL|dSH|dS
d-A|aSIGN ANUSVARA|bVISARGA|aGEMINATION MARK|aSUBJOINER|aMARK TSHEG|bSHAD|bDOUBLEa|bPLUTA
aHEAD MARK WITH MOON AND SUN AND TRIPLE FLAME|hFLAME|fSUN|aTERMINAL MARK-1|+1
11AB0:CANADIAN SYLLABICS NATTILIK HI|cHII|cHO|cHOO|cHA|cHAA|cSHRI|cSHRII|cSHRO|cSHROO|cSHRA|cSHRAA
bSPE|bSPI|bSPO|bSPA|PAU CIN HAU LETTER PA|dKA|dLA|dMA|dDA|dZA|dVA|dNGA|dHA|dGA|dKHA|dSA|dBA|dCA
dTA|dTHA|dNA|dPHA|dRA|dFA|dCHA|dA|dE|dI|dO|dU|dUA|dIA|dFINAL P|eK|eT|eM|eN|eL|eW|eNG|eY
cRISING TONE LONG|dTONE|cSANDHI GLOTTAL STOP|cRISING TONE LONG FINAL|eFINAL|cSANDHI GLOTTAL STOPa
dTONE LONG|dTONE|eLONG FINAL|eFINAL|cMID-LEVEL TONE|cGLOTTAL STOP VARIANT
cMID-LEVEL TONE LONG FINAL|eFINAL|cLOW-FALLING TONE LONG|dTONE|cGLOTTAL STOP
cLOW-FALLING TONE LONG FINAL|eFINAL|cGLOTTAL STOPa|11C00:BHAIKSUKI LETTER A|bAA|bI|bII|bU|bUU
bVOCALIC R|cRR|cL|11C0A:bE|bAI|bO|bAU|bKA|bKHA|bGA|bGHA|bNGA|bCA|bCHA|bJA|bJHA|bNYA|bTTA|bTTHA
bDDA|bDDHA|bNNA|bTA|bTHA|bDA|bDHA|bNA|bPA|bPHA|bBA|bBHA|bMA|bYA|bRA|bLA|bVA|bSHA|bSSA|bSA|bHA
aVOWEL SIGN AA|cI|cII|cU|cUU|cVOCALIC R|dRR|dL|11C38:cE|cAI|cO|cAU|aSIGN CANDRABINDU|bANUSVARA
bVISARGA|bVIRAMA|bAVAGRAHA|aDANDA|aDOUBLEa|aWORD SEPARATOR|aGAP FILLER-1|+1|11C50:aDIGIT ZERO|bONE
bTWO|bTHREE|bFOUR|bFIVE|bSIX|bSEVEN|bEIGHT|bNINE|aNUMBER ONE|bTWO|bTHREE|bFOUR|bFIVE|bSIX|bSEVEN
bEIGHT|bNINE|bTEN|bTWENTY|bTHIRTY|bFORTY|bFIFTY|bSIXTY|bSEVENTY|bEIGHTY|bNINETY
aHUNDREDS UNIT MARK|11C70:MARCHEN HEADa|aMARK SHAD|aLETTER KA|bKHA|bGA|bNGA|bCA|bCHA|bJA|bNYA|bTA
bTHA|bDA|bNA|bPA|bPHA|bBA|bMA|bTSA|bTSHA|bDZA|bWA|bZHA|bZA|b-A|bYA|bRA|bLA|bSHA|bSA|bHA|bA
11C92:aSUBJOINED LETTER KA|cKHA|cGA|cNGA|cCA|cCHA|cJA|cNYA|cTA|cTHA|cDA|cNA|cPA|cPHA|cBA|cMA|cTSA
cTSHA|cDZA|cWA|cZHA|cZA|11CA9:cYA|cRA|cLA|cSHA|cSA|cHA|cA|aVOWEL SIGN AA|cI|cU|cE|cO
aSIGN ANUSVARA|bCANDRABINDU|11D00:MASARAM GONDI LETTER A|cAA|cI|cII|cU|cUU|cE|11D08:cAI|cO
11D0B:cAU|cKA|cKHA|cGA|cGHA|cNGA|cCA|cCHA|cJA|cJHA|cNYA|cTTA|cTTHA|cDDA|cDDHA|cNNA|cTA|cTHA|cDA
cDHA|cNA|cPA|cPHA|cBA|cBHA|cMA|cYA|cRA|cLA|cVA|cSHA|cSSA|cSA|cHA|cLLA|cKSSA|cJNYA|cTRA
bVOWEL SIGN AA|dI|dII|dU|dUU|dVOCALIC R|11D3A:dE|11D3C:dAI|dO|11D3F:dAU|bSIGN ANUSVARA|cVISARGA
cNUKTA|cCANDRA|cHALANTA|bVIRAMA|bREPHA|bRA-KARA|11D50:bDIGIT ZERO|cONE|cTWO|cTHREE|cFOUR|cFIVE
cSIX|cSEVEN|cEIGHT|cNINE|11D60:GUNJALA GONDI LETTER A|cAA|cI|cII|cU|cUU|11D67:cEE|cAI|11D6A:cOO
cAU|cYA|cVA|cBA|cBHA|cMA|cKA|cKHA|cTA|cTHA|cLA|cGA|cGHA|cDA|cDHA|cNA|cCA|cCHA|cTTA|cTTHA|cLLA|cJA
cJHA|cDDA|cDDHA|cNGA|cPA|cPHA|cHA|cRA|cSA|bVOWEL SIGN AA|dI|dII|dU|dUU|11D90:dEE|dAI|11D93:dOO|dAU
bSIGN ANUSVARA|cVISARGA|bVIRAMA|bOM|11DA0:bDIGIT ZERO|cONE|cTWO|cTHREE|cFOUR|cFIVE|cSIX|cSEVEN
cEIGHT|cNINE|11EE0:MAKASAR LETTER KA|bGA|bNGA|bPA|bBA|bMA|bTA|bDA|bNA|bCA|bJA|bNYA|bYA|bRA|bLA|bVA
bSA|bA|aANGKA|aVOWEL SIGN I|cU|cE|cO|aPASSIMBANG|aEND OF SECTION|11FB0:LISU LETTER YHA
11FC0:TAMIL FRACTION ONE THREE-HUNDRED-AND-TWENTIETH|cONE-HUNDRED-AND-SIXTIETH|cEIGHTIETH
cSIXTY-FOURTH|cFORTIETH|cTHIRTY-SECOND|bTHREE EIGHTIETHS|cSIXTY-FOURTHS|bONE TWENTIETH
cSIXTEENTH-1|+1|cTENTH|cEIGHTH|bTHREE TWENTIETHS|cSIXTEENTHS|bONE FIFTH|cQUARTER|cHALF-1|+1
bTHREE QUARTERS|bDOWNSCALING FACTOR KIIZH|aSIGN NEL|bCEVITU|bAAZHAAKKU|bUZHAKKU|bMUUVUZHAKKU
bKURUNI|bPATHAKKU|bMUKKURUNI|bKAACU|bPANAM|bPON|bVARAAKAN|bPAARAM|bKUZHI|bVELI
aWET CULTIVATION SIGN|aDRYb|aLANDa|aSALT PANa|aTRADITIONAL CREDITa|bNUMBERa|aCURRENTa|aAND ODDa
aSPENTa|aTOTALa|aIN POSSESSIONa|aSTARTING FROMa|aSIGN MUTHALIYA|bVAKAIYARAA
11FFF:aPUNCTUATION END OF TEXT|CUNEIFORM SIGN A|cTIMES A|dBAD|dGAN2 TENU|dHA|dIGI|dLAGAR GUNU
dMUSH|dSAG|bA2|bAB|cTIMES ASH2|dDUN3 GUNU|dGAL|dGAN2 TENU|dHA|dIGI GUNU|dIMIN|dLAGAB|dSHESH
dU PLUS U PLUS U|cGUNU|bAB2|cTIMES BALAG|dGAN2 TENU|dME PLUS EN|dSHA3|dTAK4|bAD|bAK|cTIMES ERIN2
dSHITA PLUS GISH|bAL|cTIMES AL|dDIM2|dGISH|dHA|dKAD3|dKI|dSHE|dUSH|bALAN|bALEPH|bAMAR|cTIMES SHE
bAN|cOVER AN|cTHREE TIMES|cPLUS NAGA OPPOSING AN PLUS NAGA|eSQUARED|bANSHE|bAPIN|bARAD|cTIMES KUR
bARKAB|bASAL2|bASH|cZIDA TENU|cKABAa|cOVER ASH TUG2 OVER TUG2 TUG2 OVER TUG2 PAP|eOVER ASH
gCROSSING ASH OVER ASH OVER ASH|bASH2|bASHGAB|bBA|bBAD|bBAG3|bBAHAR2|bBAL|cOVER BAL|bBALAG|bBAR
bBARA2|bBI|cTIMES A|dGAR|dIGI GUNU|bBU|cOVER BU AB|eUN|cCROSSING BU|bBULUG|cOVER BULUG|bBUR|bBUR2
bDA|bDAG|cKISIM5 TIMES A PLUS MASH|eAMAR|eBALAG|eBI|eGA|fPLUS MASH|eGI|eGIR2|eGUD|eHA|eIR|fPLUS LU
eKAK|eLA|eLU|fPLUS MASH2|eLUM|eNE|ePAP PLUS PAP|eSI|eTAK4|eU2 PLUS GIR2|eUSH|bDAM|bDAR|bDARA3|+1
bDI|bDIB|bDIM|cTIMES SHE|bDIM2|bDIN|cKASKAL U GUNU DISH|bDISH|bDU|cOVER DU|cGUNU|cSHESHIG|bDUB
cTIMES ESH2|bDUB2|bDUG|bDUGUD|bDUH|bDUN|bDUN3|cGUNU|dGUNU|bDUN4|bDUR2|bE|cTIMES PAP
cOVER E NUN OVER NUN|bE2|cTIMES A PLUS HA PLUS DA|dGAR|dMI|dSAL|dSHE|dU|bEDIN|bEGIR|bEL|bEN
cTIMES GAN2|eTENU|dME|cCROSSING EN|cOPPOSINGa|cSQUARED|bEREN|bERIN2|bESH2|bEZEN|cTIMES A|ePLUS LAL
gTIMES LAL|dAN|dBAD|dDUN3 GUNU|fGUNU|dHA|eGUNU|dIGIa|dKASKAL|eSQUARED|dKU3|dLA|dLAL TIMES LAL|dLI
dLU|dU2|dUD|bGA|cGUNU|bGA2|cTIMES A PLUS DA PLUS HA|fHA|fIGI|dAB2 TENU PLUS TAB|dAN|dASH
dASH2 PLUS GAL|dBAD|dBAR PLUS RA|dBUR|ePLUS RA|dDA|dDI|dDIM TIMES SHE|dDUB|dEL|ePLUS LA|dEN
eTIMES GAN2 TENU|dGAN2a|dGAR|dGI|dGI4|ePLUS A|dGIR2 PLUS SU|dHA PLUS LU PLUS ESH2|dHAL|ePLUS LA
dHI PLUS LI|dHUB2|dIGI GUNU|dISH PLUS HU PLUS ASH|dKAK|dKASKAL|dKID|ePLUS LAL|dKU3 PLUS AN|dLA
dME PLUS EN|dMI|dNUN|eOVER NUN|dPA|dSAL|dSAR|dSHE|ePLUS TUR|dSHID|dSUM|dTAK4|dU|dUD|ePLUS DU
cOVER GA2|bGABA|cCROSSING GABA|bGAD|cOVER GAD GAR OVER GAR|bGAL|cGAD OVER GAD GAR OVER GAR|bGALAM
bGAM|bGAN|bGAN2|cTENU|cOVER GAN2|cCROSSINGa|bGAR|bGAR3|bGASHAN|bGESHTIN|cTIMES KUR|bGI|cTIMES E|dU
cCROSSING GI|bGI4|cOVER GI4|cCROSSINGa|bGIDIM|bGIR2|cGUNU|bGIR3|cTIMES A PLUS IGI|dGAN2 TENU|dIGI
dLU PLUSa|dPA|bGISAL|bGISH|cCROSSING GISH|cTIMES BAD|dTAK4|cTENU|bGU|cCROSSING GU|bGU2|cTIMES KAK
eTIMES IGI GUNU|dNUN|dSAL PLUS TUG2|cGUNU|bGUD|cTIMES A PLUS KUR|dKUR|cOVER GUD LUGAL|bGUL|bGUM
cTIMES SHE|bGUR|bGUR7|bGURUN|bGURUSH|bHA|cTENU|cGUNU|bHAL|bHI|cTIMES ASH|dASH2|dBAD|dDISH|dGAD
dKIN|dNUN|dSHE|dU|bHU|bHUB2|cTIMES AN|dHAL|dKASKAL|dLISH|dUD|bHUL2|bI|cA|bIB|bIDIM|cOVER IDIM BUR
eSQUARED|bIG|bIGI|cDIB|cRI|cOVER IGI SHIR OVER SHIR UD OVER UD|cGUNU|bIL|cTIMES GAN2 TENU|bIL2|bIM
cTIMES TAK4|cCROSSING IM|cOPPOSINGa|cSQUARED|bIMIN|bIN|bIR|bISH|bKA|cTIMES A|dAD|ePLUS KU3|dASH2
dBAD|dBALAG|dBAR|dBI|dERIN2|dESH2|dGA|dGAL|dGAN2 TENU|dGAR|ePLUS SHA3 PLUS A|dGI|dGIR2
dGISH PLUS SAR|eCROSSING GISH|dGU|dGUR7|dIGI|dIM|dKAK|dKI|dKID|dLI|dLU|dME|ePLUS DU|fGI|fTE|dMI
ePLUS NUNUZ|dNE|dNUN|dPI|dRU|dSA|dSAR|dSHA|dSHE|dSHID|dSHU|dSIG|dSUHUR|dTAR|dU|dU2|dUD
dUMUM TIMES PA|dUSH|dZI|bKA2|cCROSSING KA2|bKAB|bKAD2|+3|cOVER KAD5|bKAK|cTIMES IGI GUNU|bKAL
cTIMES BAD|cCROSSING KAL|bKAM2|bKAM4|bKASKAL|cLAGAB TIMES U OVER LAGAB TIMES U|cOVER KASKALg
bKESH2|bKI|cTIMES BAD|dU|dUD|bKID|bKIN|bKISAL|bKISH|bKISIM5|cOVER KISIM5|bKU
cOVER HI TIMES ASH2 KU OVER HI TIMES ASH2|bKU3|+1|cVARIANT FORM|bKU7|bKUL|cGUNU|bKUN|bKUR
cOPPOSING KUR|bKUSHU2|bKWU318|bLA|bLAGAB|cTIMES A|ePLUS DA PLUS HA|fGAR|fLAL|dAL|dAN
dASH ZIDA TENU|dBAD|dBI|dDAR|dEN|dGA|dGAR|dGUD|ePLUS GUD|dHA|dHAL|dHI TIMES NUN|dIGI GUNU|dIM
ePLUS HA|fLU|dKI|dKIN|dKU3|dKUL|ePLUS HI PLUS A|dLAGAB|dLISH|dLU|dLUL|dME|ePLUS EN|dMUSH|dNE
dSHE PLUS SUM|dSHITA PLUS GISH PLUS ERIN2|gTENU|dSHU2|ePLUS SHU2|dSUM|dTAG|dTAK4
dTE PLUS A PLUS SU PLUS NA|dU|ePLUS A|fU PLUS U|dU2 PLUS ASH|dUD|dUSH|cSQUARED|bLAGAR|cTIMES SHE
ePLUS SUM|cGUNU|dOVER LAGAR GUNU SHE|bLAHSHU|bLAL|cTIMES LAL|bLAM|cTIMES KUR|ePLUS RU|bLI|bLIL
bLIMMU2|bLISH|bLU|cTIMES BAD|bLU2|cTIMES AL|dBAD|dESH2|eTENU|dGAN2a|dHI TIMES BAD|dIM|dKAD2|+1
ePLUS ASH|dKI|dLA PLUS ASH|dLAGAB|dME PLUS EN|dNE|dNU|dSI PLUS ASH|dSIK2 PLUS BU|dTUG2|cTENU
cCROSSING LU2|cOPPOSINGa|cSQUARED|cSHESHIG|bLU3|bLUGAL|cOVER LUGAL|cOPPOSINGa|cSHESHIG|bLUH|bLUL
bLUM|cOVER LUM|eGAR OVER GAR|bMA|cTIMES TAK4|cGUNU|bMA2|bMAH|bMAR|bMASH|bMASH2|bME|bMES|bMI|bMIN
bMU|cOVER MU|bMUG|cGUNU|bMUNSUB|bMURGU2|bMUSH|cTIMES A|dKUR|dZA|cOVER MUSH|eTIMES A PLUS NA
cCROSSING MUSH|bMUSH3|cTIMES A|ePLUS DI|dDI|cGUNU|bNA|bNA2|bNAGA|cINVERTED|cTIMES SHU TENU
cOPPOSING NAGA|bNAGAR|bNAM NUTILLU|bNAM|bNAM2|bNE|cTIMES A|dUD|cSHESHIG|bNI|cTIMES E|bNI2|bNIM
cTIMES GAN2 TENU|dGAR PLUSb|bNINDA2|cTIMES AN|dASH|ePLUS ASH|dGUD|dME PLUS GAN2 TENU|dNE|dNUN|dSHE
ePLUS A AN|fASH|gPLUS ASH|dU2b|dUSH|bNISAG|bNU|bNU11|bNUN|cLAGAR TIMES GAR|eMASH|eSAL
fOVER NUN LAGAR TIMES SAL|eUSH|cTENU|cOVER NUN|cCROSSINGa|eLAGAR OVER LAGAR|bNUNUZ
cAB2 TIMES ASHGAB|eBI|eDUG|eGUD|eIGI GUNU|eKAD3|eLA|eNE|eSILA3|eU2|cKISIM5 TIMES BI|fU|bPA|bPAD
bPAN|bPAP|bPESH2|bPI|cTIMES A|dAB|dBI|dBU|dE|dI|dIB|dU|dU2|cCROSSING PI|bPIRIG|cTIMES KAL|dUD|dZA
cOPPOSING PIRIG|bRA|bRAB|bRI|bRU|bSA|bSAG NUTILLU|bSAG|cTIMES A|dDU|dDUB|dHA|dKAK|dKUR|dLUM|dMI
dNUN|dSAL|dSHID|dTAB|dU2|dUB|dUM|dUR|dUSH|cOVER SAG|cGUNU|bSAL|cLAGAB TIMES ASH2|bSANGA2|bSAR|bSHA
bSHA3|cTIMES A|dBAD|dGISH|dNE|dSHU2|dTUR|dU|ePLUS A|bSHA6|bSHAB6|bSHAR2|bSHE|cHU
cOVER SHE GAD OVER GAD GAR OVER GAR|eTAB OVER TABc|bSHEG9|bSHEN|bSHESH|bSHESH2|bSHESHLAM|bSHID
cTIMES A|dIM|bSHIM|cTIMES A|dBAL|dBULUG|dDIN|dGAR|dIGI|eGUNU|dKUSHU2|dLUL|dMUG|dSAL|bSHINIG|bSHIR
cTENU|cOVER SHIR BUR OVER BUR|bSHITA|bSHU|cOVER INVERTED SHU|bSHU2|bSHUBUR|bSI|cGUNU|bSIG|bSIG4
cOVER SIG4 SHU2|bSIK2|bSILA3|bSU|cOVER SU|bSUD|bSUD2|bSUHUR|bSUM|bSUMASH|bSUR|bSUR9|bTA|cASTERISK
cTIMES HI|dMI|cGUNU|bTAB|cOVER TAB NI OVER NI DISH OVER DISH|cSQUARED|bTAG|cTIMES BI|dGUD|dSHE
dSHU|dTUG2|dUD|bTAK4|bTAR|bTE|cGUNU|bTI|cTENU|bTIL|bTIR|cTIMES TAK4|cOVER TIR
eGAD OVER GAD GAR OVER GAR|bTU|bTUG2|bTUK|bTUM|bTUR|cOVER TUR ZA OVER ZA|bU|cGUD|cU U
cOVER U PA OVER PA GAR OVER GAR|eSUR OVER SUR|eU REVERSED OVER U REVERSED|bU2|bUB|bUD|cKUSHU2
cTIMES BAD|dMI|dU PLUS U PLUS U|iGUNU|cGUNU|cSHESHIG|dTIMES BAD|bUDUG|bUM|cTIMES LAGAB|dME PLUS DA
dSHA3|dU|bUMBIN|bUMUM|cTIMES KASKAL|dPA|bUN|cGUNU|bUR|cCROSSING UR|cSHESHIG|bUR2|cTIMES A PLUS HA
fNA|dAL|dHA|dNUN|dU2|ePLUS ASH|fBI|bUR4|bURI|bURI3|bURU|cTIMES A|dASHGAB|dBAR|dDUN|dGA|dGAL
dGAN2 TENU|dGAR|dGU|dHA|dIGI|dIM|dISH|dKI|dLUM|dMIN|dPA|dSHE|dSIG4|dTU|dU PLUS GUD|dUD|dURUDA
bURUDA|cTIMES U|bUSH|cTIMES A|dKU|dKUR|dTAK4|bUSHX|bUSH2|bUSHUMX|bUTUKI|bUZ3|cTIMES KASKAL|bUZU
bZA|cTENU|cSQUARED TIMES KUR|bZAG|bZAMX|bZE2|bZI|cOVER ZI|bZI3|bZIB|cKABA TENU|bZIG|bZIZ2|bZU|bZU5
cTIMES A|bZUBUR|bZUM|bKAP ELAMITE|bAB TIMES NUN|bAB2 TIMES A|bAMAR TIMES KUG
bDAG KISIM5 TIMES U2 PLUS MASH|bDAG3|bDISH PLUS SHU|bDUB TIMES SHE|bEZEN TIMES GUD|dSHE
bGA2 TIMES AN PLUS KAK PLUS A|dASH2|bGE22|bGIG|bHUSH|bKA TIMES ANSHE|dASH3|dGISH|dGUD
dHI TIMES ASH2|dLUM|dPA|dSHUL|dTU|dUR2|bLAGAB TIMES GI|bLU2 SHESHIG TIMES BAD|cTIMES ESH2 PLUS LAL
dSHU|bMESH|bMUSH3 TIMES ZA|bNA4|bNIN|bNIN9|bNINDA2 TIMES BAL|dGI|bNU11 ROTATED NINETY DEGREES
bPESH2 ASTERISK|bPIR2|bSAG TIMES IGI GUNU|bTI2|bUM TIMES ME|bU U|12400:aNUMERIC SIGN TWO ASH
cTHREEa|cFOURa|cFIVEa|cSIXa|cSEVENa|cEIGHTa|cNINEa|cTHREE DISH|cFOURa|cFIVEa|cSIXa|cSEVENa|cEIGHTa
cNINEa|cFOUR U|cFIVEa|cSIXa|cSEVENa|cEIGHTa|cNINEa|cONE GESH2|cTWOa|cTHREEa|cFOURa|cFIVEa|cSIXa
cSEVENa|cEIGHTa|cNINEa|cONE GESHU|cTWOa|cTHREEa|cFOURa|cFIVEa|cTWO SHAR2|cTHREEa|eVARIANT FORM
cFOUR SHAR2|cFIVEa|cSIXa|cSEVENa|cEIGHTa|cNINEa|cONE SHARU|cTWOa|cTHREEa|eVARIANT FORM|cFOUR SHARU
cFIVEa|cSHAR2 TIMES GAL PLUS DISH|gMIN|cONE BURU|cTWOa|cTHREEa|eVARIANT FORM|cFOUR BURU|cFIVEa
cTHREE VARIANT FORM ESH16|fESH21|cFOUR VARIANT FORM LIMMU|fLIMMU4|fLIMMU A|gB
cSIX VARIANT FORM ASH9|cSEVEN VARIANT FORM IMIN3|fIMIN A|gB|cEIGHT VARIANT FORM USSU|fUSSU3
cNINE VARIANT FORM ILIMMU|fILIMMU3|+1|fILIMMU A|cTWO ASH TENU|cTHREEb|cFOURb|cFIVEb|cSIXb
cONE BAN2|cTWOa|cTHREEa|cFOURa|eVARIANT FORM|cFIVE BAN2|eVARIANT FORM|cNIGIDAMIN|cNIGIDAESH
cONE ESHE3|cTWOa|cONE THIRD DISH|cTWO THIRDSa|cFIVE SIXTHSa|cONE THIRD VARIANT FORM A|cTWO THIRDSc
cONE EIGHTH ASH|dQUARTERa|cOLD ASSYRIAN ONE SIXTH|fQUARTER|cONE QUARTER GUR|dHALFa
cELAMITE ONE THIRD|dTWO THIRDS|dFORTY|dFIFTY|cFOUR U VARIANT FORM|cFIVEc|cSIXc|cSEVENc|cEIGHTc
cNINEc|12470:aPUNCTUATION SIGN OLD ASSYRIAN WORD DIVIDER|cVERTICAL COLON|cDIAGONALa|dTRICOLON
dQUADCOLON|12480:aSIGN AB TIMES NUN TENU|dSHU2|bAD TIMES ESH2|bBAD TIMES DISH TENU
bBAHAR2 TIMES AB2|dNI|dZA|bBU OVER BU TIMES NA2|bDA TIMES TAK4|bDAG TIMES KUR|bDIM TIMES IGI
dU U U|bDIM2 TIMES UD|bDUG TIMES ANSHE|dASH|eAT LEFT|dDIN|dDUN|dERIN2|dGA|dGI|dGIR2 GUNU|dGISH|dHA
dHI|dIGI GUNU|dKASKAL|dKUR|dKUSHU2|ePLUS KASKAL|dLAK-020|dLAM|eTIMES KUR|dLUH PLUS GISH|dMASH|dMES
dMI|dNI|dPI|dSHE|dSI GUNU|bE2 TIMES KUR|dPAP|bERIN2 X|bESH2 CROSSING ESH2|bEZEN SHESHIG TIMES ASH
eHI|eIGI GUNU|eLA|eLAL|eME|eMES|eSU|cTIMESa|bGA2 TIMES BAHAR2|dDIM GUNU|dDUG TIMES IGIa|fKASKAL
dEREN|dGA|dGAR PLUS DI|fNE|dHA PLUS A|dKUSHU2 PLUS KASKAL|dLAM|eTIMES KUR|dLUH|dMUSH|dNE|ePLUS E2
fGI|dSHIM|dZIZ2|bGABA ROTATED NINETY DEGREES|bGESHTIN TIMES U|bGISH TIMES GISH CROSSING GISH
bGU2 TIMES IGI GUNU|bGUD PLUS GISH TIMES TAK4|bHA TENU GUNU|bHI TIMES ASH OVER HI TIMES ASH
bKA TIMES BU|dKA|dU U U|dUR|bLAGAB TIMES ZU OVER ZU|bLAK-003|bLAK-021|bLAK-025|bLAK-030|bLAK-050
+1|bLAK-062|bLAK-079 OVER LAK-079 GUNU|bLAK-080|bLAK-081 OVER LAK-081|bLAK-092|bLAK-130|bLAK-142
bLAK-210|bLAK-219|+1|bLAK-225|bLAK-228|bLAK-238|bLAK-265|+1|bLAK-343|bLAK-347|+1|bLAK-383|+1
bLAK-390|bLAK-441|bLAK-449|cTIMES GU|dIGI|dPAP PLUS LU3|fPAP PLUSa|dU2 PLUS BA|bLAK-450|bLAK-457
bLAK-470|bLAK-483|bLAK-490|bLAK-492|+1|bLAK-495|bLAK-550|bLAK-608|bLAK-617|cTIMES ASH|dBAD
dDUN3 GUNU GUNU|dKU3|dLA|dTAR|dTE|dU2|dUD|dURUDA|bLAK-636|bLAK-648|cTIMES DUB|dGA|dIGI|eGUNU|dNI
dPAP PLUS PAP PLUS LU3|dSHESH PLUS KI|dUD|dURUDA|bLAK-724|bLAK-749|bLU2 GUNU TIMES ASH|cTIMES DISH
dHAL|dPAP|ePLUS PAP PLUS LU3|dTAK4|bMI PLUS ZA7|bMUSH OVER MUSH TIMES GA|fKAK
bNINDA2 TIMES DIM GUNU|dGISH|dGUL|dHI|dKESH2|dLAK-050|dMASH|dPAP PLUS PAP|dU|ePLUS U|dURUDA
bSAG GUNU TIMES HA|cTIMES EN|dSHE AT LEFT|dTAK4|bSHA6 TENU|bSHE OVER SHE|cPLUS HUB2|dNAM2|dSAR
bSHU2 PLUS DUG TIMES NI|dE2 TIMES AN|bSI TIMES TAK4|bTAK4 PLUS SAG|bTUM TIMES GAN2 TENU
dTHREE DISH|bUR2 INVERTED|cTIMES UD|bURU TIMES DARA3|dLAK-668|dLU3|bZA7|bZU OVER ZU PLUS SAR
bZU5 TIMES THREE DISH TENU|12F90:CYPRO-MINOAN SIGN CM001|+1|bCM004|+8|bCM012B|bCM013|bCM015|bCM017
bCM019|bCM021|bCM023|+7|bCM033|+8|bCM044|bCM046|+1|bCM049|+7|bCM058|+6|bCM066|+9|bCM075B|bCM076
bCM078|+14|bCM094|+11|bCM107|+3|bCM112|bCM114|bCM301|+1|13000:EGYPTIAN HIEROGLYPH A001|+4|bA005A
bA006|bA006A|bA006B|bA007|+7|bA014A|bA015|+2|bA017A|bA018|+14|bA032A|bA033|+7|bA040A|bA041|+1
bA042A|bA043|bA043A|bA044|+1|bA045A|bA046|+24|bB001|+4|bB005A|bB006|+3|bC001|+1|bC002A|bC002B
bC002C|bC003|+7|bC010A|bC011|+13|bD001|+7|bD008A|bD009|+18|bD027A|bD028|+3|bD031A|bD032|+2|bD034A
bD035|+11|bD046A|bD047|+1|bD048A|bD049|+1|bD050A|bD050B|bD050C|bD050D|bD050E|bD050F|bD050G|bD050H
bD050I|bD051|+1|bD052A|bD053|+1|bD054A|bD055|+12|bD067A|bD067B|bD067C|bD067D|bD067E|bD067F|bD067G
bD067H|bE001|+7|bE008A|bE009|bE009A|bE010|+6|bE016A|bE017|bE017A|bE018|+2|bE020A|bE021|+7|bE028A
bE029|+5|bE034A|bE036|+2|bF001|bF001A|bF002|+11|bF013A|bF014|+7|bF021A|bF022|+9|bF031A|bF032|+5
bF037A|bF038|bF038A|bF039|+6|bF045A|bF046|bF046A|bF047|bF047A|bF048|+3|bF051A|bF051B|bF051C|bF052
+1|bG001|+5|bG006A|bG007|bG007A|bG007B|bG008|+3|bG011A|bG012|+8|bG020A|bG021|+5|bG026A|bG027|+9
bG036A|bG037|bG037A|bG038|+5|bG043A|bG044|+1|bG045A|bG046|+8|bH001|+5|bH006A|bH007|+1|bI001|+4
bI005A|bI006|+3|bI009A|bI010|bI010A|bI011|bI011A|bI012|+3|bK001|+7|bL001|+1|bL002A|bL003|+3|bL006A
bL007|+1|bM001|bM001A|bM001B|bM002|+1|bM003A|bM004|+6|bM010A|bM011|+1|bM012A|bM012B|bM012C|bM012D
bM012E|bM012F|bM012G|bM012H|bM013|+2|bM015A|bM016|bM016A|bM017|bM017A|bM018|+4|bM022A|bM023|+1
bM024A|bM025|+3|bM028A|bM029|+2|bM031A|bM032|+1|bM033A|bM033B|bM034|+6|bM040A|bM041|+3|bN001|+17
bN018A|bN018B|bN019|+6|bN025A|bN026|+7|bN033A|bN034|bN034A|bN035|bN035A|bN036|+1|bN037A|bN038|+4
bNL001|+4|bNL005A|bNL006|+11|bNL017A|bNL018|+2|bNU001|+9|bNU010A|bNU011|bNU011A|bNU012|+6|bNU018A
bNU019|+3|bNU022A|bO001|bO001A|bO002|+3|bO005A|bO006|bO006A|bO006B|bO006C|bO006D|bO006E|bO006F
bO007|+3|bO010A|bO010B|bO010C|bO011|+8|bO019A|bO020|bO020A|bO021|+3|bO024A|bO025|bO025A|bO026|+3
bO029A|bO030|bO030A|bO031|+2|bO033A|bO034|+2|bO036A|bO036B|bO036C|bO036D|bO037|+13|bO050A|bO050B
bO051|bP001|bP001A|bP002|+1|bP003A|bP004|+7|bQ001|+6|bR001|+1|bR002A|bR003|bR003A|bR003B|bR004|+6
bR010A|bR011|+5|bR016A|bR017|+12|bS001|+1|bS002A|bS003|+3|bS006A|bS007|+7|bS014A|bS014B|bS015|+2
bS017A|bS018|+8|bS026A|bS026B|bS027|+8|bS035A|bS036|+10|bT001|+2|bT003A|bT004|+3|bT007A|bT008
bT008A|bT009|bT009A|bT010|+1|bT011A|bT012|+4|bT016A|bT017|+15|bT032A|bT033|bT033A|bT034|+2|bU001
+5|bU006A|bU006B|bU007|+16|bU023A|bU024|+5|bU029A|bU030|+2|bU032A|bU033|+9|bV001|bV001A|bV001B
bV001C|bV001D|bV001E|bV001F|bV001G|bV001H|bV001I|bV002|bV002A|bV003|+4|bV007A|bV007B|bV008|+3
bV011A|bV011B|bV011C|bV012|bV012A|bV012B|bV013|+7|bV020A|bV020B|bV020C|bV020D|bV020E|bV020F|bV020G
bV020H|bV020I|bV020J|bV020K|bV020L|bV021|+2|bV023A|bV024|+4|bV028A|bV029|bV029A|bV030|bV030A|bV031
bV031A|bV032|+1|bV033A|bV034|+3|bV037A|bV038|+2|bV040A|bW001|+2|bW003A|bW004|+5|bW009A|bW010
bW010A|bW011|+3|bW014A|bW015|+2|bW017A|bW018|bW018A|bW019|+5|bW024A|bW025|bX001|+3|bX004A|bX004B
bX005|+1|bX006A|bX007|+1|bX008A|bY001|bY001A|bY002|+6|bZ001|+1|bZ002A|bZ002B|bZ002C|bZ002D|bZ003
bZ003A|bZ003B|bZ004|bZ004A|bZ005|bZ005A|bZ006|+9|bZ015A|bZ015B|bZ015C|bZ015D|bZ015E|bZ015F|bZ015G
bZ015H|bZ015I|bZ016|bZ016A|bZ016B|bZ016C|bZ016D|bZ016E|bZ016F|bZ016G|bZ016H|bAA001|+6|bAA007A
bAA007B|bAA008|+24|13430:bVERTICAL JOINER|bHORIZONTALa|bINSERT AT TOP START|dBOTTOMa|dTOP END
dBOTTOMa|bOVERLAY MIDDLE|bBEGIN SEGMENT|bENDa|14400:ANATOLIAN HIEROGLYPH A001|+9|bA010A|bA011|+15
bA026A|bA027|+12|bA039A|bA040|+1|bA041A|bA042|+3|bA045A|bA046|bA046A|bA046B|bA047|+19|bA066A
bA066B|bA066C|bA067|+30|bA097A|bA098|bA098A|bA099|+1|bA100A|bA101|bA101A|bA102|bA102A|bA103|+1
bA104A|bA104B|bA104C|bA105|bA105A|bA105B|bA106|+1|bA107A|bA107B|bA107C|bA108|+2|bA110A|bA110B
bA111|+4|bA115A|bA116|+9|bA125A|bA126|+9|bA135A|bA136|+66|bA202A|bA202B|bA203|+4|bA207A|bA208|+1
bA209A|bA210|+5|bA215A|bA216|bA216A|bA217|+10|bA227A|bA228|+39|bA267A|bA268|+21|bA289A|bA290|+4
bA294A|bA295|+4|bA299A|bA300|+9|bA309A|bA310|+19|bA329A|bA330|+1|bA332A|bA332B|bA332C|bA333|+3
bA336A|bA336B|bA336C|bA337|+22|bA359A|bA360|+4|bA364A|bA365|+3|bA368A|bA369|+2|bA371A|bA372|+9
bA381A|bA382|bA383 RA OR RI|bA383A|bA384|+2|bA386A|bA387|+5|bA393 EIGHT|bA394|+15
bA410 BEGIN LOGOGRAM MARK|bA410A ENDb|bA411|+39|bA450A|bA451|+6|bA457A|bA458|+39|bA501|+29
16800:BAMUM LETTER PHASE-A NGKUE MFON|cGBIEE FON|cPON MFON PIPAEMGBIEE|ePIPAEMBA|cNAA MFON
cSHUENSHUET|cTITA MFON|cNZAa|cSHINDA PA NJI|cPON PA NJI PIPAEMGBIEE|fPIPAEMBA|cMAEMBGBIEE
cTU MAEMBA|cNGANGU|cMAEMVEUX|cMANSUAE|cMVEUAENGAM|cSEUNYAM|cNTOQPEN|cKEUKEUTNDA|cNKINDI|cSUU
cNGKUENZEUM|cLAPAQ|cLET KUT|cNTAP MFAA|cMAEKEUP|cPASHAE|cGHEUAERAE|cPAMSHAE|cMON NGGEUAET
cNZUN MEUT|cU YUQ NAE|cGHEUAEGHEUAE|cNTAP NTAA|cSISA|cMGBASA|cMEUNJOMNDEUQ|cMOOMPUQ|cKAFA
cPA LEERAEWA|cNDAa|cPET|cMAEMKPEN|cNIKA|cPUP|cTUAEP|cLUAEP|cSONJAM|cTEUTEUWEN|cMAENYI|cKET
cNDAANGGEUAET|cKUOQ|cMOOMEUT|cSHUM|cLOMMAE|cFIRI|cROM|cKPOQ|cSOQ|cMAP PIEET|cSHIRAE|cNTAP
cSHOQ NSHUT YUM|cNYIT MONGKEUAEQ|cPAARAE|cNKAARAE|cUNKNOWN|cNGGEN|cMAESI|cNJAM|cMBANYI|cNYET
cTEUAEN|cSOT|cPAAM|cNSHIEE|cMAEM|cNYI|cKAQ|cNSHA|cVEE|cLU|cNEN|cNAQ|cMBAQ|bPHASE-B NSHUET
cTU MAEMGBIEE|cSIEE|cSET TU|cLOM NTEUM|cMBA MAELEE|cKIEEM|cYEURAE|cMBAARAE|cKAM|cPEESHI
cYAFU LEERAEWA|cLAM NSHUT NYAM|cNTIEE SHEUOQ|cNDU NJAA|cGHEUGHEUAEM|cPIT|cTU NSIEE|cSHET NJAQ
cSHEUAEQTU|cMFON TEUAEQ|cMBIT MBAAKET|cNYI NTEUM|cKEUPUQ|cGHEUGHEN|cKEUYEUX|cLAANAE|cPARUM|cVEUM
cNGKINDI MVOP|cNGGEU MBU|cWUAET|cSAKEUAE|cTAAM|cMEUQ|cNGGUOQ|dLARGE|cMFIYAQ|cSUE|cMBEURI|cMONTIEEN
cNYAEMAE|cPUNGAAM|cMEUT NGGEET|cFEUX|cMBUOQ|cFEE|cKEUAEM|cMA NJEUAENA|dNJUQA|cLET|cNGGAAM|cNSEN
cMA|cKIQ|cNGOM|bPHASE-C NGKUE MAEMBA|cNZA|cYUM|cWANGKUOQ|cNGGEN|cNDEUAEREE|cNGKAQ|cGHARAE
cMBEEKEET|cGBAYI|cNYIR MKPARAQ MEUN|cNTU MBIT|cMBEUM|cPIRIEEN|cNDOMBU|cMBAA CABBAGE-TREE
cKEUSHEUAEP|cGHAP|cKEUKAQ|cYU MUOMAE|cNZEUM|cMBUE|cNSEUAEN|cMBIT|cYEUQ|cKPARAQ|cKAA|cSEUX|cNDIDA
cTAASHAE|cNJUEQ|cTITA YUE|cSUAET|cNGGUAEN NYAM|cVEUX|cNANSANAQ|cMA KEUAERI|cNTAA|cNGGUON|cLAP
cMBIRIEEN|cMGBASAQ|cNTEUNGBA|cTEUTEUX|cNGGUM|cFUE|cNDEUT|cNSA|cNSHAQ|cBUNG|cVEUAEPEN|cMBERAE|cRU
cNJAEM|cLAM|cTITUAEP|cNSUOT NGOM|cNJEEEE|cKET|cNGGU|cMAESI|cMBUAEM|cLU|cKUT|cNJAM|cNGOM|cWUP
cNGGUEET|cNSOM|cNTEN|cKUOP NKAARAE|cNSUN|cNDAM|cMA NSIEE|cYAA|cNDAP|cSHUEQ|cSETFON|cMBI|cMAEMBA
cMBANYI|cKEUSEUX|cMBEUX|cKEUM|cMBAA PICKET|cYUWOQ|cNJEUX|cMIEE|cMUAE|cSHIQ|cKEN LAW|dFATIGUE|cNGAQ
cNAQ|cLIQ|cPIN|cPEN|cTET|bPHASE-D MBUO|cWAP|cNJI|cMFON|cNJIEE|cLIEE|cNJEUT|cNSHEE|cNGGAAMAE|cNYAM
cWUAEN|cNGKUN|cSHEE|cNGKAP|cKEUAETMEUN|cTEUT|cSHEUAE|cNJAP|cSUE|cKET|cYAEMMAE|cKUOM|cSAP|cMFEUT
cNDEUX|cMALEERI|cMEUT|cSEUAEQ|cYEN|cNJEUAEM|cKEUOT MBUAE|cNGKEURI|cTU|cGHAA|cNGKYEE|cFEUFEUAET
cNDEE|cMGBOFUM|cLEUAEP|cNDON|cMONI|cMGBEUN|cPUUT|cMGBIEE|cMFO|cLUM|cNSIEEP|cMBAA|cKWAET|cNYET
cTEUAEN|cSOT|cYUWOQ|cKEUM|cRAEM|cTEEEE|cNGKEUAEQ|cMFEUAE|cNSIEET|cKEUP|cPIP|cPEUTAE|cNYUE|cLET
cNGGAAM|cMFIEE|cNGGWAEN|cYUOM|cPAP|cYUOP|cNDAM|cNTEUM|cSUAE|cKUN|cNGGEUX|cNGKIEE|cTUOT|cMEUN|cKUQ
cNSUM|cTEUN|cMAENJET|cNGGAP|cLEUM|cNGGUOM|cNSHUT|cNJUEQ|cGHEUAE|cKU|cREN OLD|cTAE|cTOQ|cNYI|cRII
cLEEEE|cMEEEE|cM|cSUU|cMU|cSHII|cSHEUX|cKYEE|cNU|cSHU|cNTEE|cPEE|cNI|cSHOQ|cPUQ|cMVOP|cLOQ
cREN MUCH|cTI|cNTUU|cMBAA SEVEN|cSAQ|cFAA|bPHASE-E NDAP|cTOON|cMBEUM|cLAP|cVOM|cLOON|cPAA|cSOM
cRAQ|cNSHUOP|cNDUN|cPUAE|cTAM|cNGKA|cKPEUX|cWUO|cSEE|cNGGEUAET|cPAAM|cTOO|cKUOP|cLOM|cNSHIEE|cNGOP
cMAEM|cNGKEUX|cNGOQ|cNSHUE|cRIMGBA|cNJEUX|cPEEM|cSAA|cNGGURAE|cMGBA|cGHEUX|cNGKEUAEM|cNJAEMLI|cMAP
cLOOT|cNGGEEEE|cNDIQ|cTAEN NTEUM|cSET|cPUM|cNDAA SOFTNESS|cNGGUAESHAE NYAM|cYIEE|cGHEUN|cTUAE
cYEUAE|cPO|cTUMAE|cKEUAE|cSUAEN|cTEUAEQ|cVEUAE|cWEUX|cLAAM|cPU|cTAAQ|cGHAAMAE|cNGEUREUT|cSHEUAEQ
cMGBEN|cMBEE|cNZAQ|cNKOM|cGBET|cTUM|cKUET|cYAP|cNYI CLEAVER|cYIT|cMFEUQ|cNDIAQ|cPIEEQ|cYUEQ
cLEUAEM|cFUE|cGBEUX|cNGKUP|cKET|cMAE|cNGKAAMI|cGHET|cFA|cNTUM|cPEUT|cYEUM|cNGGEUAE|cNYI BETWEEN
cNZUQ|cPOON|cMIEE|cFUET|cNAE|cMUAE|cGHEUAE|cFU I|cMVI|cPUAQ|cNGKUM|cKUT|cPIET|cNTAP|cYEUAET|cNGGUP
cPA PEOPLE|cFU CALL|cFOM|cNJEE|cA|cTOQ|cO|cI|cLAQ|cPA PLURAL|cTAA|cTAQ|cNDAA MY HOUSE|cSHIQ|cYEUX
cNGUAE|cYUAEN|cYOQ SWIMMING|dCOVER|cYUQ|cYUN|cKEUX|cPEUX|cNJEE EPOCH|cPUE|cWUE|cFEE|cVEE|cLU|cMI
cREUX|cRAE|cNGUAET|cNGA|cSHO|cSHOQ|cFU REMEDY|cNA|cPI|cLOQ|cKO|cMEN|cMA|cMAQ|cTEU|cKI|cMON|cTEN
cFAQ|cGHOM|bPHASE-F KA|cU|cKU|cEE|cREE|cTAE|cNYI|cLA|cRII|cRIEE|cMEEEE|cTAA|cNDAA|cNJAEM|cM|cSUU
cSHII|cSI|cSEUX|cKYEE|cKET|cNUAE|cNU|cNJUAE|cYOQ|cSHU|cYA|cNSHA|cPEUX|cNTEE|cWUE|cPEE|cRU|cNI
cREUX|cKEN|cNGKWAEN|cNGGA|cSHO|cPUAE|cFOM|cWA|cLI|cLOQ|cKO|cMBEN|cREN|cMA|cMO|cMBAA|cTET|cKPA
cSAMBA|cVUEQ|16A40:MRO LETTER TA|bNGI|bYO|bMIM|bBA|bDA|bA|bPHI|bKHAI|bHAO|bDAI|bCHU|bKEAAE|bOL
bMAEM|bNIN|bPA|bOO|bO|bRO|bSHI|bTHEA|bEA|bWA|bE|bKO|bLAN|bLA|bHAI|bRI|bTEK|16A60:aDIGIT ZERO|bONE
bTWO|bTHREE|bFOUR|bFIVE|bSIX|bSEVEN|bEIGHT|bNINE|16A6E:aDANDA|aDOUBLEa|TANGSA LETTER OZ|bOC|bOQ
bOX|bAZ|bAC|bAQ|bAX|bVZ|bVC|bVQ|bVX|bEZ|bEC|bEQ|bEX|bIZ|bIC|bIQ|bIX|bUZ|bUC|bUQ|bUX|bAWZ|bAWC|bAWQ
bAWX|bUIZ|bUIC|bUIQ|bUIX|bFINAL NG|bLONG UEX|bSHORT UEZ|cAWX|bUEC|bUEZ|bUEQ|bUEX|bUIUZ|bUIUC|bUIUQ
bUIUX|bMZ|bMC|bMQ|bMX|bKA|bKHA|bGA|bNGA|bSA|bYA|bWA|bPA|bNYA|bPHA|bBA|bMA|bNA|bHA|bLA|bHTA|bTA|bDA
bRA|bNHA|bSHA|bCA|bTSA|bGHA|bHTTA|bTHA|bXA|bFA|bDHA|bCHA|bZA|16AC0:aDIGIT ZERO|bONE|bTWO|bTHREE
bFOUR|bFIVE|bSIX|bSEVEN|bEIGHT|bNINE|16AD0:BASSA VAH LETTER ENNI|cKA|cSE|cFA|cMBE|cYIE|cGAH|cDHII
cKPAH|cJO|cHWAH|cWA|cZO|cGBU|cDO|cCE|cUWU|cTO|cBA|cVU|cYEIN|cPA|cWADDA|cA|cO|cOO|cU|cEE|cE|cI
16AF0:bCOMBINING HIGH TONE|cLOWa|cMIDa|cLOW-MIDa|cHIGH-LOWa|bFULL STOP
16B00:PAHAWH HMONG VOWEL KEEB|cKEEV|cKIB|cKIV|cKAUB|cKAUV|cKUB|cKUV|cKEB|cKEV|cKAIB|cKAIV|cKOOB
cKOOV|cKAWB|cKAWV|cKUAB|cKUAV|cKOB|cKOV|cKIAB|cKIAV|cKAB|cKAV|cKWB|cKWV|cKAAB|cKAAV|bCONSONANT VAU
cNTSAU|cLAU|cHAU|cNLAU|cRAU|cNKAU|cQHAU|cYAU|cHLAU|cMAU|cCHAU|cNCHAU|cHNAU|cPLHAU|cNTHAU|cNAU|cAU
cXAU|cCAU|bMARK CIM TUB|dSO|dKES|dKHAV|dSUAM|dHOM|dTAUM|bSIGN VOS THOM|dTSHAB CEEB|cCIM CHEEM
cVOS THIAB|dFEEM|cXYEEM NTXIV|dRHO|dTOV|dFAIB|cVOS SEEV|cMEEJ SUAB|cVOS NRUA|cIB YAM|cXAUS
cCIM TSOV ROG|16B50:bDIGIT ZERO|cONE|cTWO|cTHREE|cFOUR|cFIVE|cSIX|cSEVEN|cEIGHT|cNINE
16B5B:bNUMBER TENS|cHUNDREDS|cTEN THOUSANDS|cMILLIONS|cHUNDREDa|cTEN BILLIONS|cTRILLIONS
16B63:bSIGN VOS LUB|cXYOO|cHLI|cTHIRD-STAGEa|cZWJ THAJ|cHNUB|cNQIG|cXIAB|cNTUJ|cAV|cTXHEEJ CEEV
cMEEJ TSEEB|cTAU|cLOS|cMUS|cCIM HAIS LUS NTOG NTOG|dCUAM TSHOOJ|dTXWV|eCHWV|dPUB DAWB|dNRES TOS
16B7D:bCLAN SIGN TSHEEJ|dYEEG|dLIS|dLAUJ|dXYOOJ|dKOO|dHAWJ|dMUAS|dTHOJ|dTSAB|dPHAB|dKHAB|dHAM|dVAJ
dFAJ|dYAJ|dTSWB|dKWM|dVWJ|16E40:MEDEFAIDRIN CAPITAL LETTER M|cS|cV|cW|cATIU|cZ|cKP|cP|cT|cG|cF|cI
cK|cA|cJ|cE|cB|cC|cU|cYU|cL|cQ|cHP|cNY|cX|cD|cOE|cN|cR|cO|cAI|cY|aSMALL LETTER M|cS|cV|cW|cATIU|cZ
cKP|cP|cT|cG|cF|cI|cK|cA|cJ|cE|cB|cC|cU|cYU|cL|cQ|cHP|cNY|cX|cD|cOE|cN|cR|cO|cAI|cY|aDIGIT ZERO
bONE|bTWO|bTHREE|bFOUR|bFIVE|bSIX|bSEVEN|bEIGHT|bNINE|aNUMBER TEN|bELEVEN|bTWELVE|bTHIRTEEN
bFOURTEEN|bFIFTEEN|bSIXTEEN|bSEVENTEEN|bEIGHTEEN|bNINETEEN|aDIGIT ONE ALTERNATE FORM|bTWOb|bTHREEb
aCOMMA|aFULL STOP|aSYMBOL AIVA|aEXCLAMATION OH|16F00:MIAO LETTER PA|bBA|bYI PA|bPLA|bMA|bMHA
bARCHAIC MA|bFA|bVA|bVFA|bTA|bDA|bYI TTA|cTA|bTTA|bDDA|bNA|bNHA|bYI NNA|bARCHAIC NA|bNNA|bNNHA|bLA
bLYA|bLHA|bLHYA|bTLHA|bDLHA|bTLHYA|bDLHYA|bKA|bGA|bYI KA|bQA|bQGA|bNGA|bNGHA|bARCHAIC NGA|bHA|bXA
bGHA|bGHHA|bTSSA|bDZZA|bNYA|bNYHA|bTSHA|bDZHA|bYI TSHA|cDZHA|bREFORMED TSHA|bSHA|bSSA|bZHA|bZSHA
bTSA|bDZA|bYI TSA|bSA|bZA|bZSA|bZZA|bZZSA|bARCHAIC ZZA|bZZYA|bZZSYA|bWA|bAH|bHHA|bBRI|bSYI|bDZYI
bTE|bTSE|bRTE|16F4F:aSIGN CONSONANT MODIFIER BAR|aLETTER NASALIZATION|aSIGN ASPIRATION
bREFORMED VOICING|cASPIRATION|aVOWEL SIGN A|cAA|cAHH|cAN|cANG|cO|cOO|cWO|cW|cE|cEN|cENG|cOEY|cI
cIA|cIAN|cIANG|cIO|cIE|cII|cIU|cING|cU|cUA|cUAN|cUANG|cUU|cUEI|cUNG|cY|cYI|cAE|cAEE|cERR|cROUNDEDa
cER|cROUNDEDa|cAI|cEI|cAU|cOU|cN|cNG|cUOG|cYUI|cOG|cOER|cVW|cIG|cEA|cIONG|cUI|16F8F:aTONE RIGHT
bTOPa|bABOVE|bBELOW|aLETTER TONE-2|+6|bREFORMED TONE-1|+1|cTONE-4|+2|cTONE-8
16FE0:TANGUT ITERATION MARK|NUSHUb|OLD CHINESE HOOKa|bITERATIONa|KHITAN SMALL SCRIPT FILLER
16FF0:VIETNAMESE ALTERNATE READING MARK CA|dNHAY|18800:TANGUT COMPONENT-001|+767
KHITAN SMALL SCRIPT CHARACTER-#|+469|1AFF0:KATAKANA LETTER MINNAN TONE-2|+3|1AFF5:cTONE-7|+1
cNASALIZED TONE-1|+4|1AFFD:dTONE-7|+1|1B000:bARCHAIC E|HIRAGANA LETTER ARCHAIC YE
HENTAIGANA LETTER A-1|+2|bA-WO|bI-1|+3|bU-1|+4|bE-2|+4|bO-1|+2|bKA-1|+10|bKA-KE|bKI-1|+7|bKU-1|+6
bKE-1|+5|bKO-1|+2|bKO-KI|bSA-1|+7|bSI-1|+5|bSU-1|+7|bSE-1|+4|bSO-1|+6|bTA-1|+3|bTI-1|+6|bTU-1|+3
bTU-TO|bTE-1|+8|bTO-1|+5|bTO-RA|bNA-1|+8|bNI-1|+6|bNI-TE|bNU-1|+2|bNE-1|+5|bNE-KO|bNO-1|+4|bHA-1
+10|bHI-1|+6|bHU-1|+2|bHE-1|+6|bHO-1|+7|bMA-1|+6|bMI-1|+6|bMU-1|+3|bME-1|+1|bME-MA|bMO-1|+5|bYA-1
+4|bYA-YO|bYU-1|+3|bYO-1|+5|bRA-1|+3|bRI-1|+6|bRU-1|+5|bRE-1|+3|bRO-1|+5|bWA-1|+4|bWI-1|+4|bWE-1
+3|bWO-1|+6|bN-MU-MO-1|+1|HIRAGANA LETTER ARCHAIC WU|KATAKANA LETTER ARCHAIC YI|cYE|cWU
1B150:HIRAGANA LETTER SMALL WI|cWE|cWO|1B164:KATAKANA LETTER SMALL WI|cWE|cWO|cN
1B170:NUSHU CHARACTER-#|+395|1BC00:DUPLOYAN LETTER H|bX|bP|bT|bF|bK|bL|bB|bD|bV|bG|bR|bP N|bD S
bF N|bK M|bR S|bTH|bSLOAN DH|bDH|bKK|bSLOAN J|bHL|bLH|bRH|bM|bN|bJ|bS|bM N|bN M|bJa|bS J
bM WITH DOT|bNb|bJb|dDOTS INSIDE AND ABOVE|bS WITH DOT|eBELOW|bM S|bNa|bJa|bSa|bM Na|bN Ma|bJb
bS Ja|bJ S WITH DOT|cN|dS|bS T|dR|cP|dR|bT S|cRa|bW|bWH|bW R|bS N|cM|bK R S|bGb|bS K|dR|bA
bSLOAN OW|bOA|bO|bAOU|bI|bE|bIE|bSHORT I|bUI|bEE|bSLOAN EH|bROMANIAN I|bSLOAN EE|bLONG I|bYE|bU
bEU|bXW|bU N|bLONG U|bROMANIANa|bUH|bSLOAN U|bOOH|bOW|bOU|bWA|bWO|bWI|bWEI|bWOW|bNASAL U|cO|cI|cA
bPERNIN AN|cAM|bSLOAN EN|cAN|cON|bVOCALIC M|1BC70:aAFFIX LEFT HORIZONTAL SECANT|bMIDb|bRIGHTb
bLOW VERTICALa|bMIDb|bHIGHb|bATTACHEDa|cLEFT-TO-RIGHTa|cTANGENT|cTAIL|cE HOOK|cIa|cTANGENTa
1BC80:bHIGH ACUTE|cTIGHTa|cGRAVE|cLONGa|cDOT|cCIRCLE|cLINE|cWAVE|cVERTICAL|1BC90:bLOW ACUTE
cTIGHTa|cGRAVE|cLONGa|cDOT|cCIRCLE|cLINE|cWAVE|cVERTICAL|cARROW|1BC9C:aSIGN O WITH CROSS
aTHICK LETTER SELECTOR|aDOUBLE MARK|aPUNCTUATION CHINOOK FULL STOP|SHORTHAND FORMAT LETTER OVERLAP
bCONTINUINGa|bDOWN STEP|bUPa"

end SchemaFold.Text
