/-! Second names of characters: control characters, abbreviations and corrected misspellings. -/

namespace SchemaFold.Text

def secondNames : String :=
"0:NULL|START OF HEADING|bTEXT|ENDb|bTRANSMISSION|ENQUIRY|ACKNOWLEDGE|ALERT|BACKSPACE
CHARACTER TABULATION|LINE FEED|aTABULATION|FORM FEED|CARRIAGE RETURN|SHIFT OUT|aIN
DATA LINK ESCAPE|DEVICE CONTROL ONE|bTWO|bTHREE|bFOUR|NEGATIVE ACKNOWLEDGE|SYNCHRONOUS IDLE
END OF TRANSMISSION BLOCK|CANCEL|END OF MEDIUM|SUBSTITUTE|ESCAPE|INFORMATION SEPARATOR FOUR|bTHREE
bTWO|bONE|SP|7F:DELETE|PADDING CHARACTER|HIGH OCTET PRESET|BREAK PERMITTED HERE|NO BREAKa|INDEX
NEXT LINE|START OF SELECTED AREA|ENDc|CHARACTER TABULATION SET|bWITH JUSTIFICATION
LINE TABULATION SET|PARTIAL LINE FORWARD|bBACKWARD|REVERSE LINE FEED|SINGLE SHIFT TWO|bTHREE
DEVICE CONTROL STRING|PRIVATE USE ONE|bTWO|SET TRANSMIT STATE|CANCEL CHARACTER|MESSAGE WAITING
START OF GUARDED AREA|ENDc|START OF STRING|SINGLE GRAPHIC CHARACTER INTRODUCER|aCHARACTERa
CONTROL SEQUENCEa|STRING TERMINATOR|OPERATING SYSTEM COMMAND|PRIVACY MESSAGE
APPLICATION PROGRAM COMMAND|NBSP|AD:SHY|1A2:LATIN CAPITAL LETTER GHA|aSMALLb|34F:CGJ|61C:ALM
709:SYRIAC SUBLINEAR COLON SKEWED LEFT|CDE:KANNADA LETTER LLLA|E9D:LAO LETTER FO FON|E9F:cFAY
EA3:bRO|EA5:bLO|FD0:TIBETAN MARK BKA- SHOG GI MGO RGYAN|11EC:HANGUL JONGSEONG YESIEUNG-KIYEOK
bYESIEUNG-SSANGKIYEOK|bSSANGYESIEUNG|bYESIEUNG-KHIEUKH|180B:FVS1|+2|MVS|FVS4|200B:ZWSP|ZWNJ|ZWJ
LRM|RLM|202A:LRE|RLE|PDF|LRO|RLO|NNBSP|205F:MMSP|WJ|2066:LRI|RLI|FSI|PDI
2118:WEIERSTRASS ELLIPTIC FUNCTION|2448:MICR ON US SYMBOL|aDASHa
2B7A:LEFTWARDS TRIANGLE-HEADED ARROW WITH DOUBLE VERTICAL STROKE|2B7C:RIGHTWARDSf
A015:YI SYLLABLE ITERATION MARK|AA6E:MYANMAR LETTER KHAMTI LLA|FE00:VS1|+15
FE18:PRESENTATION FORM FOR VERTICAL RIGHT WHITE LENTICULAR BRACKET|FEFF:BYTE ORDER MARK
122D4:CUNEIFORM SIGN NU11 TENU|cOVER NU11 BUR OVER BUR|16E56:MEDEFAIDRIN CAPITAL LETTER H|cNG
16E76:aSMALL LETTER H|cNG|1B001:HENTAIGANA LETTER E-1
1D0C5:BYZANTINE MUSICAL SYMBOL FTHORA SKLIRON CHROMA VASIS|E0100:VS17|+239|0:NUL|SOH|STX|ETX|EOT
ENQ|ACK|BEL|BS|HORIZONTAL TABULATION|NEW LINE|VERTICAL TABULATION|FF|CR|LOCKING-SHIFT ONE|aZERO
DLE|DC1|+3|NAK|SYN|ETB|CAN|EOM|SUB|ESC|FILE SEPARATOR|GROUPa|RECORDa|UNITa|7F:DEL|PAD|HOP|BPH|NBH
IND|NEL|SSA|ESA|HORIZONTAL TABULATION SET|bWITH JUSTIFICATION|VERTICAL TABULATION SET
PARTIAL LINE DOWN|bUP|REVERSE INDEX|SINGLE-SHIFT-2|+1|DCS|PRIVATE USE-1|+1|STS|CCH|MW
START OF PROTECTED AREA|ENDc|SOS|SGC|SCI|CSI|ST|OSC|PM|APC|FEFF:BOM|9:HT|END OF LINE|VT|E:SO|SI
1C:FS|GS|RS|US|88:HTS|HTJ|VTS|PLD|PLU|RI|SS2|+1|91:PU1|+1|96:SPA|EPA|FEFF:ZWNBSP|9:TAB|LF|A:NL
A:EOL"

end SchemaFold.Text
