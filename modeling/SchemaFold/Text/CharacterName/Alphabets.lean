/-! Names of characters: from Latin to Tibetan. -/

namespace SchemaFold.Text

def alphabetNames : String :=
"20:SPACE|EXCLAMATION MARK|QUOTATIONa|NUMBER SIGN|DOLLARa|PERCENTa|AMPERSAND|APOSTROPHE
LEFT PARENTHESIS|RIGHTa|ASTERISK|PLUS SIGN|COMMA|HYPHEN-MINUS|FULL STOP|SOLIDUS|DIGIT ZERO|aONE
aTWO|aTHREE|aFOUR|aFIVE|aSIX|aSEVEN|aEIGHT|aNINE|COLON|SEMICOLON|LESS-THAN SIGN|EQUALSa
GREATER-THANa|QUESTION MARK|COMMERCIAL AT|LATIN CAPITAL LETTER A|cB|cC|cD|cE|cF|cG|cH|cI|cJ|cK|cL
cM|cN|cO|cP|cQ|cR|cS|cT|cU|cV|cW|cX|cY|cZ|LEFT SQUARE BRACKET|REVERSE SOLIDUS|RIGHT SQUARE BRACKET
CIRCUMFLEX ACCENT|LOW LINE|GRAVE ACCENT|LATIN SMALL LETTER A|cB|cC|cD|cE|cF|cG|cH|cI|cJ|cK|cL|cM
cN|cO|cP|cQ|cR|cS|cT|cU|cV|cW|cX|cY|cZ|LEFT CURLY BRACKET|VERTICAL LINE|RIGHT CURLY BRACKET|TILDE
A0:NO-BREAK SPACE|INVERTED EXCLAMATION MARK|CENT SIGN|POUNDa|CURRENCYa|YENa|BROKEN BAR
SECTION SIGN|DIAERESIS|COPY\x52IGHT SIGN|FEMININE ORDINAL INDICATOR
LEFT-POINTING DOUBLE ANGLE QUOTATION MARK|NOT SIGN|SOFT HYPHEN|REGISTERED SIGN|MACRON|DEGREE SIGN
PLUS-MINUSa|SUPERSCRIPT TWO|aTHREE|ACUTE ACCENT|MICRO SIGN|PILCROWa|MIDDLE DOT|CEDILLA
SUPERSCRIPT ONE|MASCULINE ORDINAL INDICATOR|RIGHT-POINTING DOUBLE ANGLE QUOTATION MARK
VULGAR FRACTION ONE QUARTER|cHALF|bTHREE QUARTERS|INVERTED QUESTION MARK
LATIN CAPITAL LETTER A WITH GRAVE|eACUTE|eCIRCUMFLEX|eTILDE|eDIAERESIS|eRING ABOVE|cAE
cC WITH CEDILLA|cE WITH GRAVE|eACUTE|eCIRCUMFLEX|eDIAERESIS|cI WITH GRAVE|eACUTE|eCIRCUMFLEX
eDIAERESIS|cETH|cN WITH TILDE|cO WITH GRAVE|eACUTE|eCIRCUMFLEX|eTILDE|eDIAERESIS
MULTIPLICATION SIGN|LATIN CAPITAL LETTER O WITH STROKE|cU WITH GRAVE|eACUTE|eCIRCUMFLEX|eDIAERESIS
cY WITH ACUTE|cTHORN|aSMALL LETTER SHARP S|cA WITH GRAVE|eACUTE|eCIRCUMFLEX|eTILDE|eDIAERESIS
eRING ABOVE|cAE|cC WITH CEDILLA|cE WITH GRAVE|eACUTE|eCIRCUMFLEX|eDIAERESIS|cI WITH GRAVE|eACUTE
eCIRCUMFLEX|eDIAERESIS|cETH|cN WITH TILDE|cO WITH GRAVE|eACUTE|eCIRCUMFLEX|eTILDE|eDIAERESIS
DIVISION SIGN|LATIN SMALL LETTER O WITH STROKE|cU WITH GRAVE|eACUTE|eCIRCUMFLEX|eDIAERESIS
cY WITH ACUTE|cTHORN|cY WITH DIAERESIS|aCAPITAL LETTER A WITH MACRON|aSMALLd
aCAPITAL LETTER A WITH BREVE|aSMALLd|aCAPITAL LETTER A WITH OGONEK|aSMALLd
aCAPITAL LETTER C WITH ACUTE|aSMALLd|aCAPITAL LETTER C WITH CIRCUMFLEX|aSMALLd
aCAPITAL LETTER C WITH DOT ABOVE|aSMALLe|aCAPITAL LETTER C WITH CARON|aSMALLd|aCAPITAL LETTER Db
aSMALLd|aCAPITAL LETTER D WITH STROKE|aSMALLd|aCAPITAL LETTER E WITH MACRON|aSMALLd
aCAPITAL LETTER E WITH BREVE|aSMALLd|aCAPITAL LETTER E WITH DOT ABOVE|aSMALLe
aCAPITAL LETTER E WITH OGONEK|aSMALLd|aCAPITAL LETTER E WITH CARON|aSMALLd
aCAPITAL LETTER G WITH CIRCUMFLEX|aSMALLd|aCAPITAL LETTER G WITH BREVE|aSMALLd
aCAPITAL LETTER G WITH DOT ABOVE|aSMALLe|aCAPITAL LETTER G WITH CEDILLA|aSMALLd
aCAPITAL LETTER H WITH CIRCUMFLEX|aSMALLd|aCAPITAL LETTER H WITH STROKE|aSMALLd
aCAPITAL LETTER I WITH TILDE|aSMALLd|aCAPITAL LETTER I WITH MACRON|aSMALLd
aCAPITAL LETTER I WITH BREVE|aSMALLd|aCAPITAL LETTER I WITH OGONEK|aSMALLd
aCAPITAL LETTER I WITH DOT ABOVE|aSMALL LETTER DOTLESS I|aCAPITAL LIGATURE IJ|aSMALLb
aCAPITAL LETTER J WITH CIRCUMFLEX|aSMALLd|aCAPITAL LETTER K WITH CEDILLA|aSMALLd|cKRA
aCAPITAL LETTER L WITH ACUTE|aSMALLd|aCAPITAL LETTER L WITH CEDILLA|aSMALLd
aCAPITAL LETTER L WITH CARON|aSMALLd|aCAPITAL LETTER L WITH MIDDLE DOT|aSMALLe
aCAPITAL LETTER L WITH STROKE|aSMALLd|aCAPITAL LETTER N WITH ACUTE|aSMALLd
aCAPITAL LETTER N WITH CEDILLA|aSMALLd|aCAPITAL LETTER N WITH CARON|aSMALLd
dPRECEDED BY APOSTROPHE|aCAPITAL LETTER ENG|aSMALLb|aCAPITAL LETTER O WITH MACRON|aSMALLd
aCAPITAL LETTER O WITH BREVE|aSMALLd|aCAPITAL LETTER O WITH DOUBLE ACUTE|aSMALLe
aCAPITAL LIGATURE OE|aSMALLb|aCAPITAL LETTER R WITH ACUTE|aSMALLd|aCAPITAL LETTER R WITH CEDILLA
aSMALLd|aCAPITAL LETTER R WITH CARON|aSMALLd|aCAPITAL LETTER S WITH ACUTE|aSMALLd
aCAPITAL LETTER S WITH CIRCUMFLEX|aSMALLd|aCAPITAL LETTER S WITH CEDILLA|aSMALLd
aCAPITAL LETTER S WITH CARON|aSMALLd|aCAPITAL LETTER T WITH CEDILLA|aSMALLd
aCAPITAL LETTER T WITH CARON|aSMALLd|aCAPITAL LETTER T WITH STROKE|aSMALLd
aCAPITAL LETTER U WITH TILDE|aSMALLd|aCAPITAL LETTER U WITH MACRON|aSMALLd
aCAPITAL LETTER U WITH BREVE|aSMALLd|aCAPITAL LETTER U WITH RING ABOVE|aSMALLe
aCAPITAL LETTER U WITH DOUBLE ACUTE|aSMALLe|aCAPITAL LETTER U WITH OGONEK|aSMALLd
aCAPITAL LETTER W WITH CIRCUMFLEX|aSMALLd|aCAPITAL LETTER Yb|aSMALLd
aCAPITAL LETTER Y WITH DIAERESIS|cZ WITH ACUTE|aSMALLd|aCAPITAL LETTER Z WITH DOT ABOVE|aSMALLe
aCAPITAL LETTER Z WITH CARON|aSMALLd|cLONG S|cB WITH STROKE|aCAPITAL LETTER B WITH HOOK|eTOPBAR
aSMALLd|aCAPITAL LETTER TONE SIX|aSMALLc|aCAPITAL LETTER OPEN O|cC WITH HOOK|aSMALLd
aCAPITAL LETTER AFRICAN D|cD WITH HOOK|eTOPBAR|aSMALLd|cTURNED DELTA|aCAPITAL LETTER REVERSED E
cSCHWA|cOPEN E|cF WITH HOOK|aSMALLd|aCAPITAL LETTER Gb|cGAMMA|aSMALL LETTER HV
aCAPITAL LETTER IOTA|cI WITH STROKE|cK WITH HOOK|aSMALLd|cL WITH BAR|cLAMBDA WITH STROKE
aCAPITAL LETTER TURNED M|cN WITH LEFT HOOK|aSMALL LETTER N WITH LONG RIGHT LEG
aCAPITAL LETTER O WITH MIDDLE TILDE|eHORN|aSMALLd|aCAPITAL LETTER OI|aSMALLb
aCAPITAL LETTER P WITH HOOK|aSMALLd|aLETTER YR|aCAPITAL LETTER TONE TWO|aSMALLc
aCAPITAL LETTER ESH|aLETTER REVERSED ESH LOOP|aSMALL LETTER T WITH PALATAL HOOK
aCAPITAL LETTER T WITHa|aSMALLd|aCAPITAL LETTER T WITH RETROFLEXa|cU WITH HORN|aSMALLd
aCAPITAL LETTER UPSILON|cV WITH HOOK|cYb|aSMALLd|aCAPITAL LETTER Z WITH STROKE|aSMALLd
aCAPITAL LETTER EZH|dREVERSED|aSMALLc|dWITH TAIL|aLETTER TWO WITH STROKE|aCAPITAL LETTER TONE FIVE
aSMALLc|aLETTER INVERTED GLOTTAL STOP WITH STROKE|bWYNN|bDENTAL CLICK|bLATERALa|bALVEOLARa
bRETROFLEXa|aCAPITAL LETTER DZ WITH CARON|cD WITH SMALL LETTER Zb|aSMALL LETTER DZb
aCAPITAL LETTER LJ|cL WITH SMALL LETTER J|aSMALL LETTER LJ|aCAPITAL LETTER NJ
cN WITH SMALL LETTER J|aSMALL LETTER NJ|aCAPITAL LETTER A WITH CARON|aSMALLd|aCAPITAL LETTER Ib
aSMALLd|aCAPITAL LETTER Ob|aSMALLd|aCAPITAL LETTER Ub|aSMALLd
aCAPITAL LETTER U WITH DIAERESIS AND MACRON|aSMALLf|aCAPITAL LETTER U WITH DIAERESIS AND ACUTE
aSMALLf|aCAPITAL LETTER U WITH DIAERESIS AND CARON|aSMALLf
aCAPITAL LETTER U WITH DIAERESIS AND GRAVE|aSMALLf|cTURNED E
aCAPITAL LETTER A WITH DIAERESIS AND MACRON|aSMALLf|aCAPITAL LETTER A WITH DOT ABOVEb|aSMALLg
aCAPITAL LETTER AE WITHa|aSMALLd|aCAPITAL LETTER G WITH STROKE|aSMALLd
aCAPITAL LETTER G WITH CARON|aSMALLd|aCAPITAL LETTER Kb|aSMALLd|aCAPITAL LETTER O WITH OGONEK
aSMALLd|aCAPITAL LETTER O WITH OGONEK AND MACRON|aSMALLf|aCAPITAL LETTER EZH WITH CARON|aSMALLd
cJb|aCAPITAL LETTER DZ|cD WITH SMALL LETTER Z|aSMALL LETTER DZ|aCAPITAL LETTER G WITH ACUTE
aSMALLd|aCAPITAL LETTER HWAIR|cWYNN|cN WITH GRAVE|aSMALLd
aCAPITAL LETTER A WITH RING ABOVE AND ACUTE|aSMALLg|aCAPITAL LETTER AE WITHa|aSMALLd
aCAPITAL LETTER O WITH STROKE ANDa|aSMALLf|aCAPITAL LETTER A WITH DOUBLE GRAVE|aSMALLe
aCAPITAL LETTER A WITH INVERTED BREVE|aSMALLe|aCAPITAL LETTER E WITH DOUBLE GRAVE|aSMALLe
aCAPITAL LETTER E WITH INVERTED BREVE|aSMALLe|aCAPITAL LETTER I WITH DOUBLE GRAVE|aSMALLe
aCAPITAL LETTER I WITH INVERTED BREVE|aSMALLe|aCAPITAL LETTER O WITH DOUBLE GRAVE|aSMALLe
aCAPITAL LETTER O WITH INVERTED BREVE|aSMALLe|aCAPITAL LETTER R WITH DOUBLE GRAVE|aSMALLe
aCAPITAL LETTER R WITH INVERTED BREVE|aSMALLe|aCAPITAL LETTER U WITH DOUBLE GRAVE|aSMALLe
aCAPITAL LETTER U WITH INVERTED BREVE|aSMALLe|aCAPITAL LETTER S WITH COMMA BELOW|aSMALLe
aCAPITAL LETTER Tc|aSMALLe|aCAPITAL LETTER YOGH|aSMALLb|aCAPITAL LETTER H WITH CARON|aSMALLd
aCAPITAL LETTER N WITH LONG RIGHT LEG|aSMALL LETTER D WITH CURL|aCAPITAL LETTER OU|aSMALLb
aCAPITAL LETTER Z WITH HOOK|aSMALLd|aCAPITAL LETTER A WITH DOT ABOVE|aSMALLe
aCAPITAL LETTER E WITH CEDILLA|aSMALLd|aCAPITAL LETTER O WITH DIAERESIS AND MACRON|aSMALLf
aCAPITAL LETTER O WITH TILDEb|aSMALLf|aCAPITAL LETTER O WITH DOT ABOVE|aSMALLe
aCAPITAL LETTER O WITH DOT ABOVE AND MACRON|aSMALLg|aCAPITAL LETTER Y WITHa|aSMALLd|cL WITH CURL
cNb|cTb|cDOTLESS J|cDB DIGRAPH|cQPa|aCAPITAL LETTER A WITH STROKE|cCb|aSMALLd
aCAPITAL LETTER L WITH BAR|cT WITH DIAGONAL STROKE|aSMALL LETTER S WITH SWASH TAIL|cZc
aCAPITAL LETTER GLOTTAL STOP|aSMALLc|aCAPITAL LETTER B WITH STROKE|cU BAR|cTURNED V|cE WITH STROKE
aSMALLd|aCAPITAL LETTER Jb|aSMALLd|aCAPITAL LETTER SMALL Q WITH HOOK TAIL|aSMALL LETTERd
aCAPITAL LETTER R WITH STROKE|aSMALLd|aCAPITAL LETTER Yb|aSMALLd|cTURNED A|cALPHA|cTURNEDa
cB WITH HOOK|cOPEN O|cC WITH CURL|cD WITH TAIL|eHOOK|cREVERSED E|cSCHWA|dWITH HOOK|cOPEN E
cREVERSEDb|fWITH HOOK|cCLOSED REVERSED OPEN E|cDOTLESS J WITH STROKE|cG WITH HOOK|cSCRIPT G
aLETTER SMALL CAPITALa|aSMALL LETTER GAMMA|cRAMS HORN|cTURNED H|cH WITH HOOK|cHENGb|cI WITH STROKE
cIOTA|aLETTER SMALL CAPITAL I|aSMALL LETTER L WITH MIDDLE TILDE|eBELT|eRETROFLEX HOOK|cLEZH
cTURNED M|eWITH LONG LEG|cM WITH HOOK|cN WITH LEFTa|eRETROFLEXa|aLETTER SMALL CAPITAL N
aSMALL LETTER BARRED O|aLETTER SMALL CAPITAL OE|aSMALL LETTER CLOSED OMEGA|cPHI|cTURNED R
eWITH LONG LEG|fHOOK|cR WITH LONG LEG|eTAIL|eFISHHOOK|cREVERSEDc|aLETTER SMALL CAPITAL R
dINVERTEDa|aSMALL LETTER S WITH HOOK|cESH|cDOTLESS J WITH STROKE AND HOOK|cSQUAT REVERSED ESH
cESH WITH CURL|cTURNED T|cT WITH RETROFLEX HOOK|cU BAR|cUPSILON|cV WITH HOOK|cTURNED V|dW|dY
aLETTER SMALL CAPITALa|aSMALL LETTER Z WITH RETROFLEX HOOK|eCURL|cEZH|dWITH CURL
aLETTER GLOTTAL STOP|bPHARYNGEAL VOICED FRICATIVE|bINVERTED GLOTTAL STOP|bSTRETCHED C
bBILABIAL CLICK|bSMALL CAPITAL B|aSMALL LETTER CLOSED OPEN E|aLETTER SMALL CAPITAL G WITH HOOK|dH
aSMALL LETTER J WITH CROSSED-TAIL|cTURNED K|aLETTER SMALL CAPITAL L|aSMALL LETTER Q WITH HOOK
aLETTER GLOTTAL STOP WITH STROKE|bREVERSEDd|aSMALL LETTER DZ DIGRAPH|cDEZHa|cDZ DIGRAPH WITH CURL
cTS DIGRAPH|cTESHa|cTC DIGRAPH WITH CURL|cFENG DIGRAPH|cLSa|cLZa|aLETTER BILABIAL PERCUSSIVE
bBIDENTALa|aSMALL LETTER TURNED H WITH FISHHOOK|gAND TAIL|MODIFIER LETTER SMALL H|dWITH HOOK|cJ|cR
cTURNEDa|eWITH HOOK|cCAPITAL INVERTED R|cW|cY|bPRIME|bDOUBLEa|bTURNED COMMA|bAPOSTROPHE
bREVERSED COMMA|bRIGHT HALF RING|bLEFTb|bGLOTTAL STOP|bREVERSEDb|bLEFT ARROWHEAD|bRIGHTa|bUPa
bDOWNa|bCIRCUMFLEX ACCENT|CARON|MODIFIER LETTER VERTICAL LINE|bMACRON|bACUTE ACCENT|bGRAVEa
bLOW VERTICAL LINE|cMACRON|cGRAVE ACCENT|cACUTEa|bTRIANGULAR COLON|bHALFb|bCENTRED RIGHT HALF RING
cLEFTb|bUP TACK|bDOWNa|bPLUS SIGN|bMINUSa|BREVE|DOT ABOVE|RINGa|OGONEK|SMALL TILDE
DOUBLE ACUTE ACCENT|MODIFIER LETTER RHOTIC HOOK|bCROSS ACCENT|bSMALL GAMMA|cL|cS|cX
cREVERSED GLOTTAL STOP|bEXTRA-HIGH TONE BAR|bHIGHb|bMIDb|bLOWb|bEXTRA-LOWb
bYIN DEPARTING TONE MARK|bYANGc|bVOICING|bUNASPIRATED|bDOUBLE APOSTROPHE|bLOW DOWN ARROWHEAD|cUPa
cLEFTa|cRIGHTa|cRING|bMIDDLE GRAVE ACCENT|cDOUBLEb|dACUTEa|bLOW TILDE|bRAISED COLON
bBEGIN HIGH TONE|bENDb|bBEGIN LOWa|bENDb|bSHELF|bOPENa|bLOW LEFT ARROW|COMBINING GRAVE ACCENT
aACUTEa|aCIRCUMFLEXa|aTILDE|aMACRON|aOVERLINE|aBREVE|aDOT ABOVE|aDIAERESIS|aHOOK ABOVE|aRINGa
aDOUBLE ACUTE ACCENT|aCARON|aVERTICAL LINE ABOVE|aDOUBLEc|bGRAVE ACCENT|aCANDRABINDU
aINVERTED BREVE|aTURNED COMMA ABOVE|aCOMMAa|aREVERSEDb|aCOMMA ABOVE RIGHT|aGRAVE ACCENT BELOW
aACUTEb|aLEFT TACKa|aRIGHTb|aLEFT ANGLE ABOVE|aHORN|aLEFT HALF RING BELOW|aUP TACKa|aDOWNb
aPLUS SIGNa|aMINUSb|aPALATALIZED HOOKa|aRETROFLEXb|aDOTa|aDIAERESISa|aRINGa|aCOMMAa|aCEDILLA
aOGONEK|aVERTICAL LINE BELOW|aBRIDGEa|aINVERTED DOUBLE ARCHa|aCARONa|aCIRCUMFLEX ACCENTa|aBREVEa
aINVERTEDb|aTILDEa|aMACRONa|aLOW LINE|aDOUBLEb|aTILDE OVERLAY|aSHORT STROKEa|aLONGb
aSHORT SOLIDUSa|aLONGb|aRIGHT HALF RING BELOW|aINVERTED BRIDGEa|aSQUAREa|aSEAGULLa|aX ABOVE
aVERTICAL TILDE|aDOUBLE OVERLINE|aGRAVE TONE MARK|aACUTEb|aGREEK PERISPOMENI|bKORONIS
bDIALYTIKA TONOS|bYPOGEGRAMMENI|aBRIDGE ABOVE|aEQUALS SIGN BELOW|aDOUBLE VERTICAL LINEa
aLEFT ANGLEa|aNOT TILDE ABOVE|aHOMOTHETICa|aALMOST EQUAL TOa|aLEFT RIGHT ARROW BELOW|aUPWARDSb
aGRAPHEME JOINER|aRIGHT ARROWHEAD ABOVE|aLEFT HALF RINGa|aFERMATA|aX BELOW|aLEFT ARROWHEADa
aRIGHTb|cAND UP ARROWHEADa|bHALF RING ABOVE|aDOT ABOVE RIGHT|aASTERISK BELOW|aDOUBLE RINGa
aZIGZAG ABOVE|aDOUBLE BREVE BELOW|bBREVE|bMACRON|cBELOW|bTILDE|bINVERTED BREVE
bRIGHTWARDS ARROW BELOW|aLATIN SMALL LETTER A|dE|dI|dO|dU|dC|dD|dH|dM|dR|dT|dV|dX
GREEK CAPITAL LETTER HETA|aSMALLb|aCAPITAL LETTER ARCHAIC SAMPI|aSMALLc|aNUMERAL SIGN|aLOWERb
aCAPITAL LETTER PAMPHYLIAN DIGAMMA|aSMALLc|37A:aYPOGEGRAMMENI|aSMALL REVERSED LUNATE SIGMA SYMBOL
bDOTTEDc|bREVERSEDd|aQUESTION MARK|aCAPITAL LETTER YOT|384:aTONOS|aDIALYTIKAa
aCAPITAL LETTER ALPHA WITHa|aANO TELEIA|aCAPITAL LETTER EPSILON WITH TONOS|cETAb|cIOTAb
38C:cOMICRONb|38E:cUPSILONb|cOMEGAb|aSMALL LETTER IOTA WITH DIALYTIKA ANDa|aCAPITAL LETTER ALPHA
cBETA|cGAMMA|cDELTA|cEPSILON|cZETA|cETA|cTHETA|cIOTA|cKAPPA|cLAMDA|cMU|cNU|cXI|cOMICRON|cPI|cRHO
3A3:cSIGMA|cTAU|cUPSILON|cPHI|cCHI|cPSI|cOMEGA|cIOTA WITH DIALYTIKA|cUPSILONb
aSMALL LETTER ALPHA WITH TONOS|cEPSILONb|cETAb|cIOTAb|cUPSILON WITH DIALYTIKA ANDa|cALPHA|cBETA
cGAMMA|cDELTA|cEPSILON|cZETA|cETA|cTHETA|cIOTA|cKAPPA|cLAMDA|cMU|cNU|cXI|cOMICRON|cPI|cRHO
cFINAL SIGMA|cSIGMA|cTAU|cUPSILON|cPHI|cCHI|cPSI|cOMEGA|cIOTA WITH DIALYTIKA|cUPSILONb
cOMICRON WITH TONOS|cUPSILONb|cOMEGAb|aCAPITAL KAI SYMBOL|aBETAa|aTHETAa|aUPSILON WITH HOOKa
cACUTE ANDb|cDIAERESISc|aPHIa|aPIa|aKAIa|aLETTER ARCHAIC KOPPA|aSMALLc|aLETTER STIGMA|aSMALLb
aLETTER DIGAMMA|aSMALLb|aLETTER KOPPA|aSMALLb|aLETTER SAMPI|aSMALLb|COPTIC CAPITAL LETTER SHEI
aSMALLb|aCAPITAL LETTER FEI|aSMALLb|aCAPITAL LETTER KHEI|aSMALLb|aCAPITAL LETTER HORI|aSMALLb
aCAPITAL LETTER GANGIA|aSMALLb|aCAPITAL LETTER SHIMA|aSMALLb|aCAPITAL LETTER DEI|aSMALLb
GREEK KAPPA SYMBOL|aRHOa|aLUNATE SIGMAa|aLETTER YOT|aCAPITAL THETA SYMBOL|aLUNATE EPSILONa
aREVERSEDc|aCAPITAL LETTER SHO|aSMALLb|aCAPITAL LUNATE SIGMA SYMBOL|bLETTER SAN|aSMALLb
aRHO WITH STROKE SYMBOL|aCAPITAL REVERSED LUNATE SIGMAa|bDOTTEDc|bREVERSEDd
CYRILLIC CAPITAL LETTER IE WITH GRAVE|cIO|cDJE|cGJE|cUKRAINIAN IE|cDZE|cBYELORUSSIAN-UKRAINIAN I
cYI|cJE|cLJE|cNJE|cTSHE|cKJE|cI WITH GRAVE|cSHORT U|cDZHE|cA|cBE|cVE|cGHE|cDE|cIE|cZHE|cZE|cI
cSHORTa|cKA|cEL|cEM|cEN|cO|cPE|cER|cES|cTE|cU|cEF|cHA|cTSE|cCHE|cSHA|cSHCHA|cHARD SIGN|cYERU
cSOFT SIGN|cE|cYU|cYA|aSMALL LETTER A|cBE|cVE|cGHE|cDE|cIE|cZHE|cZE|cI|cSHORTa|cKA|cEL|cEM|cEN|cO
cPE|cER|cES|cTE|cU|cEF|cHA|cTSE|cCHE|cSHA|cSHCHA|cHARD SIGN|cYERU|cSOFT SIGN|cE|cYU|cYA
cIE WITH GRAVE|cIO|cDJE|cGJE|cUKRAINIAN IE|cDZE|cBYELORUSSIAN-UKRAINIAN I|cYI|cJE|cLJE|cNJE|cTSHE
cKJE|cI WITH GRAVE|cSHORT U|cDZHE|aCAPITAL LETTER OMEGA|aSMALLb|aCAPITAL LETTER YAT|aSMALLb
aCAPITAL LETTER IOTIFIED E|aSMALLc|aCAPITAL LETTER LITTLE YUS|aSMALLc|aCAPITAL LETTER IOTIFIEDb
aSMALLd|aCAPITAL LETTER BIGa|aSMALLc|aCAPITAL LETTER IOTIFIEDb|aSMALLd|aCAPITAL LETTER KSI|aSMALLb
aCAPITAL LETTER PSI|aSMALLb|aCAPITAL LETTER FITA|aSMALLb|aCAPITAL LETTER IZHITSA|aSMALLb
aCAPITAL LETTER IZHITSA WITH DOUBLE GRAVE ACCENT|aSMALLf|aCAPITAL LETTER UK|aSMALLb
aCAPITAL LETTER ROUND OMEGA|aSMALLc|aCAPITAL LETTER OMEGA WITH TITLO|aSMALLd|aCAPITAL LETTER OT
aSMALLb|aCAPITAL LETTER KOPPA|aSMALLb|aTHOUSANDS SIGN|COMBINING CYRILLIC TITLO|bPALATALIZATION
bDASIA PNEUMATA|bPSILIa|bPOKRYTIE|bHUNDRED THOUSANDS SIGN|bMILLIONSa
CYRILLIC CAPITAL LETTER SHORT I WITH TAIL|aSMALLe|aCAPITAL LETTER SEMISOFT SIGN|aSMALLc
aCAPITAL LETTER ER WITH TICK|aSMALLd|aCAPITAL LETTER GHE WITH UPTURN|aSMALLd
aCAPITAL LETTER GHE WITH STROKE|aSMALLd|aCAPITAL LETTER GHE WITH MIDDLE HOOK|aSMALLe
aCAPITAL LETTER ZHE WITH DESCENDER|aSMALLd|aCAPITAL LETTER ZEb|aSMALLd|aCAPITAL LETTER KAb|aSMALLd
aCAPITAL LETTER KA WITH VERTICAL STROKE|aSMALLe|aCAPITAL LETTER KA WITHa|aSMALLd
aCAPITAL LETTER BASHKIR KA|aSMALLc|aCAPITAL LETTER EN WITH DESCENDER|aSMALLd
aCAPITAL LIGATURE EN GHE|aSMALLc|aCAPITAL LETTER PE WITH MIDDLE HOOK|aSMALLe
aCAPITAL LETTER ABKHASIAN HA|aSMALLc|aCAPITAL LETTER ES WITH DESCENDER|aSMALLd|aCAPITAL LETTER TEb
aSMALLd|aCAPITAL LETTER STRAIGHT U|aSMALLc|aCAPITAL LETTER STRAIGHT U WITH STROKE|aSMALLe
aCAPITAL LETTER HA WITH DESCENDER|aSMALLd|aCAPITAL LIGATURE TE TSE|aSMALLc
aCAPITAL LETTER CHE WITH DESCENDER|aSMALLd|aCAPITAL LETTER CHE WITH VERTICAL STROKE|aSMALLe
aCAPITAL LETTER SHHA|aSMALLb|aCAPITAL LETTER ABKHASIAN CHE|aSMALLc
aCAPITAL LETTER ABKHASIAN CHE WITH DESCENDER|aSMALLe|aLETTER PALOCHKA
aCAPITAL LETTER ZHE WITH BREVE|aSMALLd|aCAPITAL LETTER KA WITH HOOK|aSMALLd
aCAPITAL LETTER EL WITH TAIL|aSMALLd|aCAPITAL LETTER EN WITH HOOK|aSMALLd
aCAPITAL LETTER EN WITH TAIL|aSMALLd|aCAPITAL LETTER KHAKASSIAN CHE|aSMALLc
aCAPITAL LETTER EM WITH TAIL|aSMALLd|cPALOCHKA|aCAPITAL LETTER A WITH BREVE|aSMALLd
aCAPITAL LETTER A WITH DIAERESIS|aSMALLd|aCAPITAL LIGATURE A IE|aSMALLc
aCAPITAL LETTER IE WITH BREVE|aSMALLd|aCAPITAL LETTER SCHWA|aSMALLb
aCAPITAL LETTER SCHWA WITH DIAERESIS|aSMALLd|aCAPITAL LETTER ZHEb|aSMALLd|aCAPITAL LETTER ZEb
aSMALLd|aCAPITAL LETTER ABKHASIAN DZE|aSMALLc|aCAPITAL LETTER I WITH MACRON|aSMALLd
aCAPITAL LETTER I WITH DIAERESIS|aSMALLd|aCAPITAL LETTER Ob|aSMALLd|aCAPITAL LETTER BARRED O
aSMALLc|aCAPITAL LETTER BARRED O WITH DIAERESIS|aSMALLe|aCAPITAL LETTER Eb|aSMALLd
aCAPITAL LETTER U WITH MACRON|aSMALLd|aCAPITAL LETTER U WITH DIAERESIS|aSMALLd
aCAPITAL LETTER U WITH DOUBLE ACUTE|aSMALLe|aCAPITAL LETTER CHE WITH DIAERESIS|aSMALLd
aCAPITAL LETTER GHE WITH DESCENDER|aSMALLd|aCAPITAL LETTER YERU WITH DIAERESIS|aSMALLd
aCAPITAL LETTER GHE WITH STROKE AND HOOK|aSMALLf|aCAPITAL LETTER HA WITHa|aSMALLd
aCAPITAL LETTER HA WITH STROKE|aSMALLd|aCAPITAL LETTER KOMI DE|aSMALLc|aCAPITAL LETTER KOMI DJE
aSMALLc|aCAPITAL LETTER KOMI ZJE|aSMALLc|aCAPITAL LETTER KOMI DZJE|aSMALLc
aCAPITAL LETTER KOMI LJE|aSMALLc|aCAPITAL LETTER KOMI NJE|aSMALLc|aCAPITAL LETTER KOMI SJE|aSMALLc
aCAPITAL LETTER KOMI TJE|aSMALLc|aCAPITAL LETTER REVERSED ZE|aSMALLc|aCAPITAL LETTER EL WITH HOOK
aSMALLd|aCAPITAL LETTER LHA|aSMALLb|aCAPITAL LETTER RHA|aSMALLb|aCAPITAL LETTER YAE|aSMALLb
aCAPITAL LETTER QA|aSMALLb|aCAPITAL LETTER WE|aSMALLb|aCAPITAL LETTER ALEUT KA|aSMALLc
aCAPITAL LETTER EL WITH MIDDLE HOOK|aSMALLe|aCAPITAL LETTER ENc|aSMALLe
aCAPITAL LETTER PE WITH DESCENDER|aSMALLd|aCAPITAL LETTER SHHAb|aSMALLd
aCAPITAL LETTER EN WITH LEFT HOOK|aSMALLe|aCAPITAL LETTER DZZHE|aSMALLb|aCAPITAL LETTER DCHE
aSMALLb|aCAPITAL LETTER EL WITH DESCENDER|aSMALLd|531:ARMENIAN CAPITAL LETTER AYB|cBEN|cGIM|cDA
cECH|cZA|cEH|cET|cTO|cZHE|cINI|cLIWN|cXEH|cCA|cKEN|cHO|cJA|cGHAD|cCHEH|cMEN|cYI|cNOW|cSHA|cVO|cCHA
cPEH|cJHEH|cRA|cSEH|cVEW|cTIWN|cREH|cCO|cYIWN|cPIWR|cKEH|cOH|cFEH
559:aMODIFIER LETTER LEFT HALF RING|aAPOSTROPHE|aEMPHASIS MARK|aEXCLAMATIONa|aCOMMA|aQUESTION MARK
aABBREVIATIONa|aSMALL LETTER TURNED AYB|cAYB|cBEN|cGIM|cDA|cECH|cZA|cEH|cET|cTO|cZHE|cINI|cLIWN
cXEH|cCA|cKEN|cHO|cJA|cGHAD|cCHEH|cMEN|cYI|cNOW|cSHA|cVO|cCHA|cPEH|cJHEH|cRA|cSEH|cVEW|cTIWN|cREH
cCO|cYIWN|cPIWR|cKEH|cOH|cFEH|bLIGATURE ECH YIWN|bLETTER YI WITH STROKE|aFULL STOP|aHYPHEN
58D:RIGHT-FACING ARMENIAN ETERNITY SIGN|LEFT-FACINGc|ARMENIAN DRAMa|591:HEBREW ACCENT ETNAHTA
bSEGOL|bSHALSHELET|bZAQEF QATAN|cGADOL|bTIPEHA|bREVIA|bZARQA|bPASHTA|bYETIV|bTEVIR|bGERESH|cMUQDAM
bGERSHAYIM|bQARNEY PARA|bTELISHA GEDOLA|bPAZER|bATNAH HAFUKH|bMUNAH|bMAHAPAKH|bMERKHA|cKEFULA
bDARGA|bQADMA|bTELISHA QETANA|bYERAH BEN YOMO|bOLE|bILUY|bDEHI|bZINOR|aMARK MASORA CIRCLE
aPOINT SHEVA|bHATAF SEGOL|cPATAH|cQAMATS|bHIRIQ|bTSERE|bSEGOL|bPATAH|bQAMATS|bHOLAM|cHASER FOR VAV
bQUBUTS|bDAGESH OR MAPIQ|bMETEG|aPUNCTUATION MAQAF|aPOINT RAFE|aPUNCTUATION PASEQ|aPOINT SHIN DOT
bSINa|aPUNCTUATION SOF PASUQ|aMARK UPPER DOT|bLOWERa|aPUNCTUATION NUN HAFUKHA|aPOINT QAMATS QATAN
5D0:aLETTER ALEF|bBET|bGIMEL|bDALET|bHE|bVAV|bZAYIN|bHET|bTET|bYOD|bFINAL KAF|bKAF|bLAMED
bFINAL MEM|bMEM|bFINAL NUN|bNUN|bSAMEKH|bAYIN|bFINAL PE|bPE|bFINAL TSADI|bTSADI|bQOF|bRESH|bSHIN
bTAV|5EF:aYOD TRIANGLE|aLIGATURE YIDDISH DOUBLE VAV|cVAV YOD|cDOUBLEa|aPUNCTUATION GERESH
bGERSHAYIM|600:ARABIC NUMBER SIGN|aSIGN SANAH|aFOOTNOTE MARKER|aSIGN SAFHA|bSAMVAT
aNUMBER MARK ABOVE|ARABIC-INDIC CUBE ROOT|aFOURTHa|ARABIC RAY|ARABIC-INDIC PER MILLE SIGN
bTEN THOUSANDa|AFGHANIa|ARABIC COMMA|aDATE SEPARATOR|aPOETIC VERSE SIGN|aSIGN MISRA
bSALLALLAHOU ALAYHE WASSALLAM|bALAYHE ASSALLAM|bRAHMATULLAH ALAYHE|bRADI ALLAHOU ANHU|bTAKHALLUS
aSMALL HIGH TAH|cLIGATURE ALEF WITH LAM WITH YEH|cZAIN|bFATHA|bDAMMA|bKASRA|aSEMICOLON
aLETTER MARK|aEND OF TEXTa|aTRIPLE DOT PUNCTUATIONa|aQUESTIONa|aLETTER KASHMIRI YEH|bHAMZA
bALEF WITH MADDA ABOVE|dHAMZAa|bWAWc|bALEF WITH HAMZA BELOW|bYEH WITH HAMZA ABOVE|bALEF|bBEH
bTEH MARBUTA|bTEH|bTHEH|bJEEM|bHAH|bKHAH|bDAL|bTHAL|bREH|bZAIN|bSEEN|bSHEEN|bSAD|bDAD|bTAH|bZAH
bAIN|bGHAIN|bKEHEH WITH TWO DOTS ABOVE|dTHREE DOTS BELOW|bFARSI YEH WITH INVERTED V
eTWO DOTS ABOVE|eTHREEb|aTATWEEL|aLETTER FEH|bQAF|bKAF|bLAM|bMEEM|bNOON|bHEH|bWAW|bALEF MAKSURA
bYEH|aFATHATAN|aDAMMATAN|aKASRATAN|aFATHA|aDAMMA|aKASRA|aSHADDA|aSUKUN|aMADDAH ABOVE|aHAMZAa
bBELOW|aSUBSCRIPT ALEF|aINVERTED DAMMA|aMARK NOON GHUNNA|aZWARAKAY|aVOWEL SIGN SMALL V ABOVE
cINVERTEDc|cDOT BELOW|aREVERSED DAMMA|aFATHA WITH TWO DOTS|aWAVY HAMZA BELOW
ARABIC-INDIC DIGIT ZERO|bONE|bTWO|bTHREE|bFOUR|bFIVE|bSIX|bSEVEN|bEIGHT|bNINE|ARABIC PERCENT SIGN
aDECIMAL SEPARATOR|aTHOUSANDSa|aFIVE POINTED STAR|aLETTER DOTLESS BEH|cQAF|bSUPERSCRIPT ALEF
bALEF WASLA|cWITH WAVY HAMZA ABOVE|fBELOW|bHIGH HAMZA|dALEF|dWAW|bU WITH HAMZA ABOVE
bHIGH HAMZA YEH|bTTEH|bTTEHEH|bBEEH|bTEH WITH RING|dTHREE DOTS ABOVE DOWNWARDS|bPEH|bTEHEH|bBEHEH
bHAH WITH HAMZA ABOVE|dTWO DOTS VERTICALa|bNYEH|bDYEH|bHAH WITH THREE DOTS ABOVE|bTCHEH|bTCHEHEH
bDDAL|bDAL WITH RING|dDOT BELOW|fAND SMALL TAH|bDAHAL|bDDAHAL|bDUL
bDAL WITH THREE DOTS ABOVE DOWNWARDS|dFOUR DOTS ABOVE|bRREH|bREH WITH SMALL V|dRING|dDOT BELOW
dSMALL Va|dDOT BELOW AND DOT ABOVE|dTWO DOTSa|bJEH|bREH WITH FOUR DOTS ABOVE
bSEEN WITH DOT BELOW AND DOTa|dTHREE DOTS BELOW|gAND THREE DOTS ABOVE|bSAD WITH TWO DOTS BELOW
dTHREE DOTS ABOVE|bTAHd|bAINd|bDOTLESS FEH|bFEH WITH DOT MOVED BELOW|eBELOW|bVEH
bFEH WITH THREE DOTS BELOW|bPEHEH|bQAF WITH DOT ABOVE|dTHREE DOTSa|bKEHEH|bSWASH KAF
bKAF WITH RING|dDOT ABOVE|bNG|bKAF WITH THREE DOTS BELOW|bGAF|cWITH RING|bNGOEH
bGAF WITH TWO DOTS BELOW|bGUEH|bGAF WITH THREE DOTS ABOVE|bLAM WITH SMALL V|dDOT ABOVE
dTHREE DOTSa|fBELOW|bNOON WITH DOTa|cGHUNNA|bRNOON|bNOON WITH RING|dTHREE DOTS ABOVE
bHEH DOACHASHMEE|bTCHEH WITH DOT ABOVE|bHEH WITH YEHa|cGOAL|dWITH HAMZA ABOVE|bTEH MARBUTA GOAL
bWAW WITH RING|bKIRGHIZ OE|bOE|bU|bYU|bKIRGHIZa|bWAW WITH TWO DOTS ABOVE|bVE|bFARSI YEH
bYEH WITH TAIL|dSMALL V|bWAW WITH DOT ABOVE|bE|bYEH WITH THREE DOTS BELOW|cBARREE
dWITH HAMZA ABOVE|aFULL STOP|aLETTER AE|aSMALL HIGH LIGATURE SAD WITH LAM WITH ALEF MAKSURA|dQAFe
cMEEM INITIAL FORM|cLAM ALEF|cJEEM|cTHREE DOTS|cSEEN|aEND OF AYAH|aSTART OF RUB EL HIZB
aSMALL HIGH ROUNDED ZERO|cUPRIGHT RECTANGULARa|cDOTLESS HEAD OF KHAH|cMEEM ISOLATED FORM|bLOW SEEN
bHIGH MADDA|bWAW|bYEH|bHIGHa|cNOON|aPLACE OF SAJDAH|aEMPTY CENTRE LOW STOP|cHIGHa
aROUNDED HIGH STOP WITH FILLED CENTRE|aSMALL LOW MEEM|aLETTER DAL WITH INVERTED V|bREHc
EXTENDED ARABIC-INDIC DIGIT ZERO|cONE|cTWO|cTHREE|cFOUR|cFIVE|cSIX|cSEVEN|cEIGHT|cNINE
ARABIC LETTER SHEEN WITH DOT BELOW|bDADc|bGHAINc|aSIGN SINDHI AMPERSAND|cPOSTPOSITION MEN
aLETTER HEH WITH INVERTED V|SYRIAC END OF PARAGRAPH|aSUPRALINEAR FULL STOP|aSUBLINEARb
aSUPRALINEAR COLON|aSUBLINEARa|aHORIZONTALa|aCOLON SKEWED LEFT|cRIGHT
aSUPRALINEAR COLON SKEWED LEFT|aSUBLINEAR COLON SKEWED RIGHT|aCONTRACTION|aHARKLEAN OBELUS
bMETOBELUS|bASTERISCUS|70F:aABBREVIATION MARK|aLETTER ALAPH|bSUPERSCRIPTa|bBETH|bGAMAL|cGARSHUNI
bDALATH|bDOTLESS DALATH RISH|bHE|bWAW|bZAIN|bHETH|bTETH|cGARSHUNI|bYUDH|cHE|bKAPH|bLAMADH|bMIM
bNUN|bSEMKATH|bFINALa|bE|bPE|bREVERSEDa|bSADHE|bQAPH|bRISH|bSHIN|bTAW|bPERSIAN BHETH|cGHAMAL
cDHALATH|aPTHAHA ABOVE|bBELOW|bDOTTED|aZQAPHA ABOVE|bBELOW|bDOTTED|aRBASA ABOVE|bBELOW
aDOTTED ZLAMA HORIZONTAL|cANGULAR|aHBASA ABOVE|bBELOW|aHBASA-ESASA DOTTED|aESASA ABOVE|bBELOW
aRWAHA|aFEMININE DOT|aQUSHSHAYA|aRUKKAKHA|aTWO VERTICAL DOTS ABOVE|dBELOW|aTHREE DOTS ABOVE|cBELOW
aOBLIQUE LINE ABOVE|cBELOW|aMUSIC|aBARREKH|74D:aLETTER SOGDIAN ZHAIN|cKHAPH|cFE
ARABIC LETTER BEH WITH THREE DOTS HORIZONTALLY BELOW|dDOT BELOW AND THREE DOTS ABOVE
dTHREE DOTS POINTING UPWARDS BELOW|iAND TWO DOTS ABOVE|dTWO DOTS BELOW AND DOTa
dINVERTED SMALL V BELOW|dSMALL V|bHAH WITH TWO DOTS ABOVE|dTHREE DOTS POINTING UPWARDS BELOW
bDAL WITH TWO DOTS VERTICALLY BELOW AND SMALL TAH|dINVERTED SMALL V BELOW|bREH WITH STROKE
bSEEN WITH FOUR DOTS ABOVE|bAIN WITH TWOb|dTHREE DOTS POINTING DOWNWARDSa|dTWO DOTS VERTICALLYa
bFEH WITH TWO DOTS BELOW|dTHREE DOTS POINTING UPWARDSa|bKEHEH WITH DOT ABOVE|dTHREE DOTSa
fPOINTING UPWARDS BELOW|bMEEM WITH DOT ABOVE|eBELOW|bNOON WITH TWO DOTSa|dSMALL TAH|eV
bLAM WITH BAR|bREH WITH TWO DOTS VERTICALLY ABOVE|dHAMZAa|bSEEN WITH TWO DOTS VERTICALLYa
bHAH WITH SMALL ARABIC LETTER TAH BELOW|hAND TWO DOTS|bSEENh|bREHh
bHAH WITH SMALL ARABIC LETTER TAH ABOVE|bALEF WITH EXTENDED ARABIC-INDIC DIGIT TWOa|gTHREEa
bFARSI YEH WITH EXTENDED ARABIC-INDIC DIGIT TWOa|hTHREEa|hFOUR BELOW
bWAW WITH EXTENDED ARABIC-INDIC DIGIT TWO ABOVE|gTHREEa
bYEH BARREE WITH EXTENDED ARABIC-INDIC DIGIT TWOa|hTHREEa
bHAH WITH EXTENDED ARABIC-INDIC DIGIT FOUR BELOW|bSEEN WITH EXTENDED ARABIC-INDIC DIGIT FOUR ABOVE
dINVERTED V|bKAF WITH TWO DOTS ABOVE|THAANA LETTER HAA|bSHAVIYANI|bNOONU|bRAA|bBAA|bLHAVIYANI
bKAAFU|bALIFU|bVAAVU|bMEEMU|bFAAFU|bDHAALU|bTHAA|bLAAMU|bGAAFU|bGNAVIYANI|bSEENU|bDAVIYANI
bZAVIYANI|bTAVIYANI|bYAA|bPAVIYANI|bJAVIYANI|bCHAVIYANI|bTTAA|bHHAA|bKHAA|bTHAALU|bZAA|bSHEENU
bSAADHU|bDAADHU|bTO|bZO|bAINU|bGHAINU|bQAAFU|bWAAVU|aABAFILI|aAABAAFILI|aIBIFILI|aEEBEEFILI
aUBUFILI|aOOBOOFILI|aEBEFILI|aEYBEYFILI|aOBOFILI|aOABOAFILI|aSUKUN|aLETTER NAA|7C0:NKO DIGIT ZERO
bONE|bTWO|bTHREE|bFOUR|bFIVE|bSIX|bSEVEN|bEIGHT|bNINE|aLETTER A|bEE|bI|bE|bU|bOO|bO|bDAGBASINNA|bN
bBA|bPA|bTA|bJA|bCHA|bDA|bRA|bRRA|bSA|bGBA|bFA|bKA|bLA|bNA WOLOSO|bMA|bNYA|bNA|bHA|bWA|bYA
bNYA WOLOSO|bJONA JA|cCHA|cRA|aCOMBINING SHORT HIGH TONE|cLOWa|cRISINGa|bLONG DESCENDINGa|cHIGHa
cLOWa|cRISINGa|bNASALIZATION MARK|bDOUBLE DOT ABOVE|aHIGH TONE APOSTROPHE|aLOWb|aSYMBOL OO DENNEN
bGBAKURUNEN|aCOMMA|aEXCLAMATION MARK|aLAJANYALAN|7FD:aDANTAYALAN|aDOROME SIGN|aTAMANa
SAMARITAN LETTER ALAF|bBIT|bGAMAN|bDALAT|bIY|bBAA|bZEN|bIT|bTIT|bYUT|bKAAF|bLABAT|bMIM|bNUN
bSINGAAT|bIN|bFI|bTSAADIY|bQUF|bRISH|bSHAN|bTAAF|aMARK IN|bIN-ALAF|bOCCLUSION|bDAGESH
aMODIFIER LETTER EPENTHETIC YUT|aMARKb|aVOWEL SIGN LONG E|cE|cOVERLONG AA|cLONGa|cAA|cOVERLONG A
cLONGa|cA|aMODIFIER LETTER SHORTa|aVOWEL SIGNb|cLONG U|cU|aMODIFIER LETTER I|aVOWEL SIGN LONGa|cI
cO|cSUKUN|aMARK NEQUDAA|830:aPUNCTUATIONa|bAFSAAQ|bANGED|bBAU|bATMAAU|bSHIYYAALAA
aABBREVIATION MARK|aPUNCTUATION MELODIC QITSA|bZIQAA|bQITSA|bZAEF|bTURU|bARKAANU|bSOF MASHFAAT
bANNAAU|840:MANDAIC LETTER HALQA|bAB|bAG|bAD|bAH|bUSHENNA|bAZ|bIT|bATT|bAKSA|bAK|bAL|bAM|bAN|bAS
bIN|bAP|bASZ|bAQ|bAR|bASH|bAT|bDUSHENNA|bKAD|bAIN|aAFFRICATION MARK|aVOCALIZATIONa|aGEMINATIONa
85E:aPUNCTUATION|860:SYRIAC LETTER MALAYALAM NGA|cJA|cNYA|cTTA|cNNA|cNNNA|cBHA|cRA|cLLA|cLLLA|cSSA
870:ARABIC LETTER ALEF WITH ATTACHED FATHA|eTOP RIGHTa|dRIGHT MIDDLE STROKE|dLEFTb|dATTACHED KASRA
eBOTTOM RIGHTa|eROUND DOT ABOVE|eRIGHT ROUND DOT|eLEFTb|eROUND DOT BELOW|dDOT ABOVE
dATTACHED TOP RIGHT FATHA ANDb|dRIGHT MIDDLE STROKEc|dATTACHED BOTTOM RIGHT KASRAc
eTOP RIGHT FATHA AND LEFT RING|dRIGHT MIDDLE STROKEc|dATTACHED BOTTOM RIGHT KASRAc|eRIGHT HAMZA
eLEFTa|aTATWEEL WITH OVERSTRUCKa|dWAW|cTWO DOTS BELOW|aLETTER THIN YEH|aBASELINE ROUND DOT
aRAISEDb|aLETTER NOON WITH INVERTED SMALL V|bHAH WITH INVERTED SMALL V BELOW|bTAH WITH DOTa
dTHREE DOTSa|bKEHEH WITH TWO DOTS VERTICALLYa|aVERTICAL TAIL|890:aPOUND MARK ABOVE|aPIASTREb
898:aSMALL HIGH WORD AL-JUZ|bLOW WORD ISHMAAM|dIMAALA|dTASHEEL|aMADDA WAAJIB
aSUPERSCRIPT ALEF MOKHASSAS|aDOUBLED MADDA|aHALF MADDA OVERa|aLETTER BEH WITH SMALL V BELOW
dHAMZA ABOVE|bJEEM WITH TWO DOTSa|bTAHd|bFEH WITH DOT BELOW AND THREEb|bQAF WITH DOT BELOW
bLAM WITH DOUBLE BAR|bMEEM WITH THREE DOTS ABOVE|bYEH WITH TWO DOTS BELOW AND HAMZAa|hDOTa
bREH WITH LOOP|bWAW WITH DOT WITHIN|bROHINGYA YEH|bLOW ALEF|bDAL WITH THREE DOTS BELOW|bSADd
bGAF WITH INVERTED STROKE|bSTRAIGHT WAW|bZAIN WITH INVERTED V ABOVE|bAIN WITH THREE DOTS BELOW
bKAF WITH DOTa|bQAF WITH DOT BELOW AND NO DOTS ABOVE|bBEH WITH SMALL MEEMa|bPEHd
bTEH WITH SMALL TEHa|bREH WITH SMALL NOONa|bYEH WITH TWO DOTS BELOW ANDc|bAFRICAN FEH|cQAF|cNOON
bPEH WITH SMALL V|bTEHc|bTTEHc|bTCHEHc|bKEHEHc|bGHAIN WITH THREE DOTS ABOVE|bAFRICAN QAFd|bJEEMd
fBELOW|bLAM WITH SMALL ARABIC LETTER TAH ABOVE|bGRAF|aSMALL FARSI YEH|bHIGHb
cYEH BARREE WITH TWO DOTS BELOW|cWORD SAH|cZAH|aLARGE ROUND DOT ABOVE|dBELOW|aSUKUNa
aLARGE CIRCLEa|bROUND DOT INSIDEb|aSMALL LOW WAW|bHIGH WORD AR-RUB|cSAD|cAIN|cQAF|cNOON WITH KASRA
bLOWc|bHIGH WORD ATH-THALATHA|dAS-SAJDA|dAN-NISF|dSAKTA|dQIF|dWAQFA|cFOOTNOTE MARKER|cSIGN SAFHA
aDISPUTED END OF AYAH|aTURNED DAMMA BELOW|aCURLY FATHA|bDAMMA|bKASRA|bFATHATAN|bDAMMATAN|bKASRATAN
aTONE ONE DOT ABOVE|bTWO DOTSa|bLOOPa|bONE DOT BELOW|bTWO DOTSa|bLOOPa|aOPEN FATHATAN|bDAMMATAN
bKASRATAN|aSMALL HIGH WAW|aFATHA WITH RING|cDOT ABOVE|aKASRA WITH DOT BELOW|aLEFT ARROWHEAD ABOVE
aRIGHTb|aLEFT ARROWHEAD BELOW|aRIGHTb|aDOUBLE RIGHT ARROWHEAD ABOVE|eWITH DOT|aRIGHTd|aDAMMAb
aMARK SIDEWAYS NOON GHUNNA|DEVANAGARI SIGN INVERTED CANDRABINDU|bCANDRABINDU|bANUSVARA|bVISARGA
aLETTER SHORT A|bA|bAA|bI|bII|bU|bUU|bVOCALIC R|cL|bCANDRA E|bSHORTa|bE|bAI|bCANDRA O|bSHORTa|bO
bAU|bKA|bKHA|bGA|bGHA|bNGA|bCA|bCHA|bJA|bJHA|bNYA|bTTA|bTTHA|bDDA|bDDHA|bNNA|bTA|bTHA|bDA|bDHA|bNA
bNNNA|bPA|bPHA|bBA|bBHA|bMA|bYA|bRA|bRRA|bLA|bLLA|bLLLA|bVA|bSHA|bSSA|bSA|bHA|aVOWEL SIGN OE|cOOE
aSIGN NUKTA|bAVAGRAHA|aVOWEL SIGN AA|cI|cII|cU|cUU|cVOCALIC R|dRR|cCANDRA E|cSHORTa|cE|cAI
cCANDRA O|cSHORTa|cO|cAU|aSIGN VIRAMA|aVOWEL SIGN PRISHTHAMATRA E|cAW|aOM|aSTRESS SIGN UDATTA
cANUDATTA|aGRAVE ACCENT|aACUTEa|aVOWEL SIGN CANDRA LONG E|cUE|cUUE|aLETTER QA|bKHHA|bGHHA|bZA
bDDDHA|bRHA|bFA|bYYA|bVOCALIC RR|cLL|aVOWEL SIGN VOCALIC L|dLL|aDANDA|aDOUBLEa|aDIGIT ZERO|bONE
bTWO|bTHREE|bFOUR|bFIVE|bSIX|bSEVEN|bEIGHT|bNINE|aABBREVIATION SIGN|aSIGN HIGH SPACING DOT
aLETTER CANDRA A|bOE|bOOE|bAW|bUE|bUUE|bMARWARI DDA|bZHA|bHEAVY YA|bGGA|bJJA|bGLOTTAL STOP|bDDDA
bBBA|BENGALI ANJI|aSIGN CANDRABINDU|bANUSVARA|bVISARGA|985:aLETTER A|bAA|bI|bII|bU|bUU|bVOCALIC R
cL|98F:bE|bAI|993:bO|bAU|bKA|bKHA|bGA|bGHA|bNGA|bCA|bCHA|bJA|bJHA|bNYA|bTTA|bTTHA|bDDA|bDDHA|bNNA
bTA|bTHA|bDA|bDHA|bNA|9AA:bPA|bPHA|bBA|bBHA|bMA|bYA|bRA|9B2:bLA|9B6:bSHA|bSSA|bSA|bHA
9BC:aSIGN NUKTA|bAVAGRAHA|aVOWEL SIGN AA|cI|cII|cU|cUU|cVOCALIC R|dRR|9C7:cE|cAI|9CB:cO|cAU
aSIGN VIRAMA|aLETTER KHANDA TA|9D7:aAU LENGTH MARK|9DC:aLETTER RRA|bRHA|9DF:bYYA|bVOCALIC RR|cLL
aVOWEL SIGN VOCALIC L|dLL|9E6:aDIGIT ZERO|bONE|bTWO|bTHREE|bFOUR|bFIVE|bSIX|bSEVEN|bEIGHT|bNINE
aLETTER RA WITH MIDDLE DIAGONAL|dLOWERa|aRUPEE MARK|bSIGN|aCURRENCY NUMERATOR ONE|cTWO|cTHREE
cFOUR|cONE LESS THAN THE DENOMINATOR|bDENOMINATOR SIXTEEN|aISSHAR|aGANDA MARK
aLETTER VEDIC ANUSVARA|aABBREVIATION SIGN|aSANDHI MARK|A01:GURMUKHI SIGN ADAK BINDI|bBINDI
bVISARGA|A05:aLETTER A|bAA|bI|bII|bU|bUU|A0F:bEE|bAI|A13:bOO|bAU|bKA|bKHA|bGA|bGHA|bNGA|bCA|bCHA
bJA|bJHA|bNYA|bTTA|bTTHA|bDDA|bDDHA|bNNA|bTA|bTHA|bDA|bDHA|bNA|A2A:bPA|bPHA|bBA|bBHA|bMA|bYA|bRA
A32:bLA|bLLA|A35:bVA|bSHA|A38:bSA|bHA|A3C:aSIGN NUKTA|A3E:aVOWEL SIGN AA|cI|cII|cU|cUU|A47:cEE|cAI
A4B:cOO|cAU|aSIGN VIRAMA|A51:bUDAAT|A59:aLETTER KHHA|bGHHA|bZA|bRRA|A5E:bFA|A66:aDIGIT ZERO|bONE
bTWO|bTHREE|bFOUR|bFIVE|bSIX|bSEVEN|bEIGHT|bNINE|aTIPPI|aADDAK|aIRI|aURA|aEK ONKAR|aSIGN YAKASH
aABBREVIATION SIGN|A81:GUJARATI SIGN CANDRABINDU|bANUSVARA|bVISARGA|A85:aLETTER A|bAA|bI|bII|bU
bUU|bVOCALIC R|cL|aVOWEL CANDRA E|A8F:aLETTERa|bAI|aVOWEL CANDRA O|A93:aLETTERa|bAU|bKA|bKHA|bGA
bGHA|bNGA|bCA|bCHA|bJA|bJHA|bNYA|bTTA|bTTHA|bDDA|bDDHA|bNNA|bTA|bTHA|bDA|bDHA|bNA|AAA:bPA|bPHA|bBA
bBHA|bMA|bYA|bRA|AB2:bLA|bLLA|AB5:bVA|bSHA|bSSA|bSA|bHA|ABC:aSIGN NUKTA|bAVAGRAHA|aVOWEL SIGN AA
cI|cII|cU|cUU|cVOCALIC R|dRR|cCANDRA E|AC7:cE|cAI|cCANDRA O|ACB:cO|cAU|aSIGN VIRAMA|AD0:aOM
AE0:aLETTER VOCALIC RR|cLL|aVOWEL SIGN VOCALIC L|dLL|AE6:aDIGIT ZERO|bONE|bTWO|bTHREE|bFOUR|bFIVE
bSIX|bSEVEN|bEIGHT|bNINE|aABBREVIATION SIGN|aRUPEEa|AF9:aLETTER ZHA|aSIGN SUKUN|bSHADDA|bMADDAH
bTHREE-DOT NUKTA ABOVE|bCIRCLEb|bTWO-CIRCLEb|B01:ORIYA SIGN CANDRABINDU|bANUSVARA|bVISARGA
B05:aLETTER A|bAA|bI|bII|bU|bUU|bVOCALIC R|cL|B0F:bE|bAI|B13:bO|bAU|bKA|bKHA|bGA|bGHA|bNGA|bCA
bCHA|bJA|bJHA|bNYA|bTTA|bTTHA|bDDA|bDDHA|bNNA|bTA|bTHA|bDA|bDHA|bNA|B2A:bPA|bPHA|bBA|bBHA|bMA|bYA
bRA|B32:bLA|bLLA|B35:bVA|bSHA|bSSA|bSA|bHA|B3C:aSIGN NUKTA|bAVAGRAHA|aVOWEL SIGN AA|cI|cII|cU|cUU
cVOCALIC R|dRR|B47:cE|cAI|B4B:cO|cAU|aSIGN VIRAMA|B55:bOVERLINE|aAI LENGTH MARK|aAUb
B5C:aLETTER RRA|bRHA|B5F:bYYA|bVOCALIC RR|cLL|aVOWEL SIGN VOCALIC L|dLL|B66:aDIGIT ZERO|bONE|bTWO
bTHREE|bFOUR|bFIVE|bSIX|bSEVEN|bEIGHT|bNINE|aISSHAR|aLETTER WA|aFRACTION ONE QUARTER|cHALF
bTHREE QUARTERS|bONE SIXTEENTH|cEIGHTH|bTHREE SIXTEENTHS|B82:TAMIL SIGN ANUSVARA|bVISARGA
B85:aLETTER A|bAA|bI|bII|bU|bUU|B8E:bE|bEE|bAI|B92:bO|bOO|bAU|bKA|B99:bNGA|bCA|B9C:bJA|B9E:bNYA
bTTA|BA3:bNNA|bTA|BA8:bNA|bNNNA|bPA|BAE:bMA|bYA|bRA|bRRA|bLA|bLLA|bLLLA|bVA|bSHA|bSSA|bSA|bHA
BBE:aVOWEL SIGN AA|cI|cII|cU|cUU|BC6:cE|cEE|cAI|BCA:cO|cOO|cAU|aSIGN VIRAMA|BD0:aOM
BD7:aAU LENGTH MARK|BE6:aDIGIT ZERO|bONE|bTWO|bTHREE|bFOUR|bFIVE|bSIX|bSEVEN|bEIGHT|bNINE
aNUMBER TEN|bONE HUNDRED|cTHOUSAND|aDAY SIGN|aMONTHa|aYEARa|aDEBITa|aCREDITa|aAS ABOVEa|aRUPEEa
aNUMBERa|C00:TELUGU SIGN COMBINING CANDRABINDU ABOVE|bCANDRABINDU|bANUSVARA|bVISARGA
bCOMBINING ANUSVARA ABOVE|aLETTER A|bAA|bI|bII|bU|bUU|bVOCALIC R|cL|C0E:bE|bEE|bAI|C12:bO|bOO|bAU
bKA|bKHA|bGA|bGHA|bNGA|bCA|bCHA|bJA|bJHA|bNYA|bTTA|bTTHA|bDDA|bDDHA|bNNA|bTA|bTHA|bDA|bDHA|bNA
C2A:bPA|bPHA|bBA|bBHA|bMA|bYA|bRA|bRRA|bLA|bLLA|bLLLA|bVA|bSHA|bSSA|bSA|bHA|C3C:aSIGN NUKTA
bAVAGRAHA|aVOWEL SIGN AA|cI|cII|cU|cUU|cVOCALIC R|dRR|C46:cE|cEE|cAI|C4A:cO|cOO|cAU|aSIGN VIRAMA
C55:aLENGTH MARK|aAIb|C58:aLETTER TSA|bDZA|bRRRA|C5D:bNAKAARA POLLU|C60:bVOCALIC RR|cLL
aVOWEL SIGN VOCALIC L|dLL|C66:aDIGIT ZERO|bONE|bTWO|bTHREE|bFOUR|bFIVE|bSIX|bSEVEN|bEIGHT|bNINE
C77:aSIGN SIDDHAM|aFRACTION DIGIT ZERO FOR ODD POWERS OF FOUR|cONEe|cTWOe|cTHREEe|cONE FOR EVENc
cTWOe|cTHREEe|aSIGN TUUMU|KANNADA SIGN SPACING CANDRABINDU|bCANDRABINDU|bANUSVARA|bVISARGA
bSIDDHAM|aLETTER A|bAA|bI|bII|bU|bUU|bVOCALIC R|cL|C8E:bE|bEE|bAI|C92:bO|bOO|bAU|bKA|bKHA|bGA|bGHA
bNGA|bCA|bCHA|bJA|bJHA|bNYA|bTTA|bTTHA|bDDA|bDDHA|bNNA|bTA|bTHA|bDA|bDHA|bNA|CAA:bPA|bPHA|bBA|bBHA
bMA|bYA|bRA|bRRA|bLA|bLLA|CB5:bVA|bSHA|bSSA|bSA|bHA|CBC:aSIGN NUKTA|bAVAGRAHA|aVOWEL SIGN AA|cI
cII|cU|cUU|cVOCALIC R|dRR|CC6:cE|cEE|cAI|CCA:cO|cOO|cAU|aSIGN VIRAMA|CD5:aLENGTH MARK|aAIb
CDD:aLETTER NAKAARA POLLU|bFA|CE0:bVOCALIC RR|cLL|aVOWEL SIGN VOCALIC L|dLL|CE6:aDIGIT ZERO|bONE
bTWO|bTHREE|bFOUR|bFIVE|bSIX|bSEVEN|bEIGHT|bNINE|CF1:aSIGN JIHVAMULIYA|bUPADHMANIYA
D00:MALAYALAM SIGN COMBINING ANUSVARA ABOVE|bCANDRABINDU|bANUSVARA|bVISARGA|aLETTER VEDIC ANUSVARA
bA|bAA|bI|bII|bU|bUU|bVOCALIC R|cL|D0E:bE|bEE|bAI|D12:bO|bOO|bAU|bKA|bKHA|bGA|bGHA|bNGA|bCA|bCHA
bJA|bJHA|bNYA|bTTA|bTTHA|bDDA|bDDHA|bNNA|bTA|bTHA|bDA|bDHA|bNA|bNNNA|bPA|bPHA|bBA|bBHA|bMA|bYA|bRA
bRRA|bLA|bLLA|bLLLA|bVA|bSHA|bSSA|bSA|bHA|bTTTA|aSIGN VERTICAL BAR VIRAMA|bCIRCULARa|bAVAGRAHA
aVOWEL SIGN AA|cI|cII|cU|cUU|cVOCALIC R|dRR|D46:cE|cEE|cAI|D4A:cO|cOO|cAU|aSIGN VIRAMA
aLETTER DOT REPH|aSIGN PARA|D54:aLETTER CHILLU M|cY|cLLL|aAU LENGTH MARK
aFRACTION ONE ONE-HUNDRED-AND-SIXTIETH|cFORTIETH|bTHREE EIGHTIETHS|bONE TWENTIETH|cTENTH
bTHREE TWENTIETHS|bONE FIFTH|aLETTER ARCHAIC II|bVOCALIC RR|cLL|aVOWEL SIGN VOCALIC L|dLL
D66:aDIGIT ZERO|bONE|bTWO|bTHREE|bFOUR|bFIVE|bSIX|bSEVEN|bEIGHT|bNINE|aNUMBER TEN|bONE HUNDRED
cTHOUSAND|aFRACTION ONE QUARTER|cHALF|bTHREE QUARTERS|bONE SIXTEENTH|cEIGHTH|bTHREE SIXTEENTHS
aDATE MARK|aLETTER CHILLU NN|cN|cRR|cL|cLL|cK|D81:SINHALA SIGN CANDRABINDU|bANUSVARAYA|bVISARGAYA
D85:aLETTER AYANNA|bAAYANNA|bAEYANNA|bAEEYANNA|bIYANNA|bIIYANNA|bUYANNA|bUUYANNA|bIRUYANNA
bIRUUYANNA|bILUYANNA|bILUUYANNA|bEYANNA|bEEYANNA|bAIYANNA|bOYANNA|bOOYANNA|bAUYANNA
D9A:bALPAPRAANA KAYANNA|bMAHAAPRAANAa|bALPAPRAANA GAYANNA|bMAHAAPRAANAa|bKANTAJA NAASIKYAYA
bSANYAKA GAYANNA|bALPAPRAANA CAYANNA|bMAHAAPRAANAa|bALPAPRAANA JAYANNA|bMAHAAPRAANAa
bTAALUJA NAASIKYAYA|cSANYOOGA NAAKSIKYAYA|bSANYAKA JAYANNA|bALPAPRAANA TTAYANNA|bMAHAAPRAANAa
bALPAPRAANA DDAYANNA|bMAHAAPRAANAa|bMUURDHAJA NAYANNA|bSANYAKA DDAYANNA|bALPAPRAANA TAYANNA
bMAHAAPRAANAa|bALPAPRAANA DAYANNA|bMAHAAPRAANAa|bDANTAJA NAYANNA|DB3:bSANYAKA DAYANNA
bALPAPRAANA PAYANNA|bMAHAAPRAANAa|bALPAPRAANA BAYANNA|bMAHAAPRAANAa|bMAYANNA|bAMBA BAYANNA
bYAYANNA|bRAYANNA|DBD:bDANTAJA LAYANNA|DC0:bVAYANNA|bTAALUJA SAYANNA|bMUURDHAJAa|bDANTAJAa
bHAYANNA|bMUURDHAJA LAYANNA|bFAYANNA|DCA:aSIGN AL-LAKUNA|DCF:aVOWEL SIGN AELA-PILLA
cKETTI AEDA-PILLA|cDIGAa|cKETTI IS-PILLA|cDIGAa|cKETTI PAA-PILLA|DD6:cDIGAa|DD8:cGAETTA-PILLA
cKOMBUVA|cDIGAa|cKOMBU DEKA|cKOMBUVA HAA AELA-PILLA|eDIGAa|eGAYANUKITTA|cGAYANUKITTA
DE6:aLITH DIGIT ZERO|cONE|cTWO|cTHREE|cFOUR|cFIVE|cSIX|cSEVEN|cEIGHT|cNINE
DF2:aVOWEL SIGN DIGA GAETTA-PILLA|dGAYANUKITTA|aPUNCTUATION KUNDDALIYA|E01:THAI CHARACTER KO KAI
bKHO KHAI|cKHUAT|cKHWAI|cKHON|cRAKHANG|bNGO NGU|bCHO CHAN|cCHING|cCHANG|bSO SO|bCHO CHOE|bYO YING
bDO CHADA|bTO PATAK|bTHO THAN|cNANGMONTHO|cPHUTHAO|bNO NEN|bDO DEK|bTO TAO|bTHO THUNG|cTHAHAN
cTHONG|bNO NU|bBO BAIMAI|bPO PLA|bPHO PHUNG|bFO FA|bPHO PHAN|bFO FAN|bPHO SAMPHAO|bMO MA|bYO YAK
bRO RUA|bRU|bLO LING|bLU|bWO WAEN|bSO SALA|cRUSI|cSUA|bHO HIP|bLO CHULA|bO ANG|bHO NOKHUK
bPAIYANNOI|bSARA A|bMAI HAN-AKAT|bSARA AA|cAM|cI|cII|cUE|cUEE|cU|cUU|bPHINTHU
E3F:aCURRENCY SYMBOL BAHT|aCHARACTER SARA E|cAE|cO|cAI MAIMUAN|dMAIMALAI|bLAKKHANGYAO|bMAIYAMOK
bMAITAIKHU|bMAI EK|cTHO|cTRI|cCHATTAWA|bTHANTHAKHAT|bNIKHAHIT|bYAMAKKAN|bFONGMAN|aDIGIT ZERO|bONE
bTWO|bTHREE|bFOUR|bFIVE|bSIX|bSEVEN|bEIGHT|bNINE|aCHARACTER ANGKHANKHU|bKHOMUT|E81:LAO LETTER KO
bKHO SUNG|E84:cTAM|E86:bPALI GHA|bNGO|bCO|bPALI CHA|bSO TAM|E8C:bPALI JHA|bNYO|bPALI NYA|cTTA
cTTHA|cDDA|cDDHA|cNNA|bDO|bTO|bTHO SUNG|cTAM|bPALI DHA|bNO|bBO|bPO|bPHO SUNG|bFO TAM|bPHOa
bFO SUNG|bPALI BHA|bMO|bYO|bLO LING|EA5:cLOOT|EA7:bWO|bSANSKRIT SHA|cSSA|bSO SUNG|bHOa|bPALI LLA
bO|bHO TAM|aELLIPSIS|aVOWEL SIGN A|cMAI KAN|cAA|cAM|cI|cII|cY|cYY|cU|cUU|aSIGN PALI VIRAMA
aVOWEL SIGN MAI KON|aSEMIVOWEL SIGN LO|cNYO|EC0:aVOWEL SIGN E|cEI|cO|cAY|cAI|EC6:aKO LA
EC8:aTONE MAI EK|cTHO|cTI|cCATAWA|aCANCELLATION MARK|aNIGGAHITA|ED0:aDIGIT ZERO|bONE|bTWO|bTHREE
bFOUR|bFIVE|bSIX|bSEVEN|bEIGHT|bNINE|EDC:aHO NO|bMO|aLETTER KHMU GO|cNYO|F00:TIBETAN SYLLABLE OM
aMARK GTER YIG MGO TRUNCATED A|e-UM RNAM BCAD MA|fGTER TSHEGa|bINITIAL YIG MGO MDUNa
bCLOSING YIG MGO SGABa|bCARET YIG MGO PHUR SHADa|bYIG MGO TSHEGb|bSBRUL SHAD|bBSKUR YIG MGO
bBKA- SHOGb|bINTERSYLLABIC TSHEG|bDELIMITER TSHEG BSTAR|bSHAD|bNYISa|bTSHEGa|bNYISb
bRIN CHEN SPUNGSa|bRGYA GRAMa|bCARET -DZUD RTAGS ME LONG CAN|bGTER TSHEG|aLOGOTYPE SIGN CHAD RTAGS
cLHAGa|aASTROLOGICAL SIGN SGRA GCAN -CHARa|c-KHYUD PA|cSDONG TSHUGS|aSIGN RDEL DKAR GCIG|dGNYIS
dGSUM|cNAG GCIG|dGNYIS|cDKAR RDEL NAG|aDIGIT ZERO|bONE|bTWO|bTHREE|bFOUR|bFIVE|bSIX|bSEVEN|bEIGHT
bNINE|bHALF ONE|cTWO|cTHREE|cFOUR|cFIVE|cSIX|cSEVEN|cEIGHT|cNINE|cZERO|aMARK BSDUS RTAGS
bNGAS BZUNG NYI ZLA|bCARET -DZUD RTAGS BZHI MIG CAN|bNGAS BZUNG SGOR RTAGS|bCHE MGO|bTSA -PHRU
bGUG RTAGS GYON|dGYAS|bANG KHANG GYON|dGYAS|aSIGN YAR TSHES|bMARa|aLETTER KA|bKHA|bGA|bGHA|bNGA
bCA|bCHA|bJA|F49:bNYA|bTTA|bTTHA|bDDA|bDDHA|bNNA|bTA|bTHA|bDA|bDHA|bNA|bPA|bPHA|bBA|bBHA|bMA|bTSA
bTSHA|bDZA|bDZHA|bWA|bZHA|bZA|b-A|bYA|bRA|bLA|bSHA|bSSA|bSA|bHA|bA|bKSSA|bFIXED-FORM RA|bKKA|bRRA
F71:aVOWEL SIGN AA|cI|cII|cU|cUU|cVOCALIC R|dRR|dL|dLL|cE|cEE|cO|cOO|aSIGN RJES SU NGA RO
bRNAM BCAD|aVOWEL SIGN REVERSED I|dII|aSIGN NYI ZLA NAA DA|bSNA LDAN|aMARK HALANTA|bPALUTA
aSIGN LCI RTAGS|bYANGa|bLCE TSA CAN|bMCHUa|bGRU CAN RGYINGS|cMEDa|bINVERTED MCHU CAN
aSUBJOINED SIGN LCE TSAa|cMCHUa|cINVERTEDb|bLETTER KA|cKHA|cGA|cGHA|cNGA|cCA|cCHA|cJA|F99:cNYA
cTTA|cTTHA|cDDA|cDDHA|cNNA|cTA|cTHA|cDA|cDHA|cNA|cPA|cPHA|cBA|cBHA|cMA|cTSA|cTSHA|cDZA|cDZHA|cWA
cZHA|cZA|c-A|cYA|cRA|cLA|cSHA|cSSA|cSA|cHA|cA|cKSSA|cFIXED-FORM WA|dYA|dRA|FBE:aKU RU KHA
dBZHI MIG CAN|aCANTILLATION SIGN HEAVY BEAT|cLIGHTa|cCANG TE-U|cSBUB -CHAL|aSYMBOL DRIL BU
bRDO RJE|bPADMA GDAN|bRDO RJE RGYA GRAM|bPHUR PA|bNOR BU|dNYIS -KHYIL|dGSUMa|dBZHIa
FCE:aSIGN RDEL NAG RDEL DKAR|dGSUM|aMARK BSKA- SHOG GI MGO RGYAN|bMNYAM YIGc|bNYIS TSHEG
bINITIAL BRDA RNYING YIG MGO MDUN MA|bCLOSING BRDA RNYING YIG MGO SGABa|RIGHT-FACING SVASTI SIGN
LEFT-FACINGb|RIGHT-FACING SVASTI SIGN WITH DOTS|LEFT-FACINGd|TIBETAN MARK LEADING MCHAN RTAGS
bTRAILINGb"

end SchemaFold.Text
