/-! Names of characters: tiles, cards, pictographs and selectors. -/

namespace SchemaFold.Text

def pictographNames : String :=
"1F000:MAHJONG TILE EAST WIND|bSOUTHa|bWESTa|bNORTHa|bRED DRAGON|bGREENa|bWHITEa|bONE OF CHARACTERS
bTWOb|bTHREEb|bFOURb|bFIVEb|bSIXb|bSEVENb|bEIGHTb|bNINEb|bONE OF BAMBOOS|bTWOb|bTHREEb|bFOURb
bFIVEb|bSIXb|bSEVENb|bEIGHTb|bNINEb|bONE OF CIRCLES|bTWOb|bTHREEb|bFOURb|bFIVEb|bSIXb|bSEVENb
bEIGHTb|bNINEb|bPLUM|bORCHID|bBAMBOO|bCHRYSANTHEMUM|bSPRING|bSUMMER|bAUTUMN|bWINTER|bJOKER|bBACK
1F030:DOMINO TILE HORIZONTALa|bHORIZONTAL-00-00|+6|bHORIZONTAL-01-00|+6|bHORIZONTAL-02-00|+6
bHORIZONTAL-03-00|+6|bHORIZONTAL-04-00|+6|bHORIZONTAL-05-00|+6|bHORIZONTAL-06-00|+6|bVERTICAL BACK
bVERTICAL-00-00|+6|bVERTICAL-01-00|+6|bVERTICAL-02-00|+6|bVERTICAL-03-00|+6|bVERTICAL-04-00|+6
bVERTICAL-05-00|+6|bVERTICAL-06-00|+6|1F0A0:PLAYING CARD BACK|bACE OF SPADES|bTWOb|bTHREEb|bFOURb
bFIVEb|bSIXb|bSEVENb|bEIGHTb|bNINEb|bTENb|bJACKb|bKNIGHTb|bQUEENb|bKINGb|1F0B1:bACE OF HEARTS
bTWOb|bTHREEb|bFOURb|bFIVEb|bSIXb|bSEVENb|bEIGHTb|bNINEb|bTENb|bJACKb|bKNIGHTb|bQUEENb|bKINGb
bRED JOKER|1F0C1:bACE OF DIAMONDS|bTWOb|bTHREEb|bFOURb|bFIVEb|bSIXb|bSEVENb|bEIGHTb|bNINEb|bTENb
bJACKb|bKNIGHTb|bQUEENb|bKINGb|bBLACK JOKER|1F0D1:bACE OF CLUBS|bTWOb|bTHREEb|bFOURb|bFIVEb|bSIXb
bSEVENb|bEIGHTb|bNINEb|bTENb|bJACKb|bKNIGHTb|bQUEENb|bKINGb|bWHITE JOKER|bFOOL|bTRUMP-1|+20
1F100:DIGIT ZERO FULL STOP|bCOMMA|aONEa|aTWOa|aTHREEa|aFOURa|aFIVEa|aSIXa|aSEVENa|aEIGHTa|aNINEa
DINGBAT CIRCLED SANS-SERIF DIGIT ZERO|aNEGATIVEd|CIRCLED ZERO WITH SLASH|aANTICLOCKWISE ARROW
aDOLLAR SIGN WITH OVERLAID BACKSLASH|PARENTHESIZED LATIN CAPITAL LETTER A|dB|dC|dD|dE|dF|dG|dH|dI
dJ|dK|dL|dM|dN|dO|dP|dQ|dR|dS|dT|dU|dV|dW|dX|dY|dZ|TORTOISE SHELL BRACKETED LATIN CAPITAL LETTER S
CIRCLED ITALIC LATIN CAPITAL LETTER C|eR|aCD|aWZ|COPYLEFT SYMBOL|SQUARED LATIN CAPITAL LETTER A|dB
dC|dD|dE|dF|dG|dH|dI|dJ|dK|dL|dM|dN|dO|dP|dQ|dR|dS|dT|dU|dV|dW|dX|dY|dZ|aHV|aMV|aSD|aSS|aPPV|aWC
NEGATIVE CIRCLED LATIN CAPITAL LETTER A|eB|eC|eD|eE|eF|eG|eH|eI|eJ|eK|eL|eM|eN|eO|eP|eQ|eR|eS|eT
eU|eV|eW|eX|eY|eZ|RAISED MC SIGN|aMDa|aMRa|CIRCLED CC|aC WITH OVERLAID BACKSLASH|aHUMAN FIGURE
NEGATIVE SQUARED LATIN CAPITAL LETTER A|eB|eC|eD|eE|eF|eG|eH|eI|eJ|eK|eL|eM|eN|eO|eP|eQ|eR|eS|eT
eU|eV|eW|eX|eY|eZ|CROSSED NEGATIVE SQUARED LATIN CAPITAL LETTER P|NEGATIVE SQUARED IC|bPA|bSA|bAB
bWC|SQUARE DJ|SQUARED CL|aCOOL|aFREE|aID|aNEW|aNG|aOK|aSOS|aUP WITH EXCLAMATION MARK|aVS|aTHREE D
aSECOND SCREEN|aTWO K|aFOURa|aEIGHTa|aFIVE POINT ONE|aSEVENb|aTWENTY-TWO POINT TWO|aSIXTY P
aONE HUNDRED TWENTYa|aLATIN SMALL LETTER D|aHC|aHDR|aHI-RES|aLOSSLESS|aSHV|aUHD|aVOD
MASK WORK SYMBOL|1F1E6:REGIONAL INDICATOR SYMBOL LETTER A|dB|dC|dD|dE|dF|dG|dH|dI|dJ|dK|dL|dM|dN
dO|dP|dQ|dR|dS|dT|dU|dV|dW|dX|dY|dZ|SQUARE HIRAGANA HOKA|SQUARED KATAKANA KOKO|bSA
1F210:aCJK UNIFIED IDEOGRAPH-624B|cIDEOGRAPH-5B57|cIDEOGRAPH-53CC|aKATAKANA DE
aCJK UNIFIED IDEOGRAPH-4E8C|cIDEOGRAPH-591A|cIDEOGRAPH-89E3|cIDEOGRAPH-5929|cIDEOGRAPH-4EA4
cIDEOGRAPH-6620|cIDEOGRAPH-7121|cIDEOGRAPH-6599|cIDEOGRAPH-524D|cIDEOGRAPH-5F8C|cIDEOGRAPH-518D
cIDEOGRAPH-65B0|cIDEOGRAPH-521D|cIDEOGRAPH-7D42|cIDEOGRAPH-751F|cIDEOGRAPH-8CA9|cIDEOGRAPH-58F0
cIDEOGRAPH-5439|cIDEOGRAPH-6F14|cIDEOGRAPH-6295|cIDEOGRAPH-6355|cIDEOGRAPH-4E00|cIDEOGRAPH-4E09
cIDEOGRAPH-904A|cIDEOGRAPH-5DE6|cIDEOGRAPH-4E2D|cIDEOGRAPH-53F3|cIDEOGRAPH-6307|cIDEOGRAPH-8D70
cIDEOGRAPH-6253|cIDEOGRAPH-7981|cIDEOGRAPH-7A7A|cIDEOGRAPH-5408|cIDEOGRAPH-6E80|cIDEOGRAPH-6709
cIDEOGRAPH-6708|cIDEOGRAPH-7533|cIDEOGRAPH-5272|cIDEOGRAPH-55B6|cIDEOGRAPH-914D
1F240:TORTOISE SHELL BRACKETED CJK UNIFIED IDEOGRAPH-672C|eIDEOGRAPH-4E09|eIDEOGRAPH-4E8C
eIDEOGRAPH-5B89|eIDEOGRAPH-70B9|eIDEOGRAPH-6253|eIDEOGRAPH-76D7|eIDEOGRAPH-52DD|eIDEOGRAPH-6557
1F250:CIRCLED IDEOGRAPH ADVANTAGE|bACCEPT|1F260:ROUNDED SYMBOL FOR FU|cLU|cSHOU|cXI|cSHUANGXI|cCAI
1F300:CYCLONE|FOGGY|CLOSED UMBRELLA|NIGHT WITH STARS|SUNRISE OVER MOUNTAINS|SUNRISE
CITYSCAPE AT DUSK|SUNSET OVER BUILDINGS|RAINBOW|BRIDGE AT NIGHT|WATER WAVE|VOLCANO|MILKY WAY
EARTH GLOBE EUROPE-AFRICA|bAMERICAS|bASIA-AUSTRALIA|GLOBE WITH MERIDIANS|NEW MOON SYMBOL
WAXING CRESCENTb|FIRST QUARTERb|WAXING GIBBOUSb|FULLb|WANING GIBBOUSb|LAST QUARTERb
WANING CRESCENTb|CRESCENT MOON|NEW MOON WITH FACE|FIRST QUARTERc|LASTd|FULLc|SUNb|GLOWING STAR
SHOOTINGa|THERMOMETER|BLACK DROPLET|WHITE SUN|bWITH SMALL CLOUD|bBEHINDa|dWITH RAIN|CLOUDb|bSNOW
bLIGHTNING|bTORNADO|FOG|WIND BLOWING FACE|HOT DOG|TACO|BURRITO|CHESTNUT|SEEDLING|EVERGREEN TREE
DECIDUOUSa|PALMa|CACTUS|HOT PEPPER|TULIP|CHERRY BLOSSOM|ROSE|HIBISCUS|SUNFLOWER|BLOSSOM
EAR OF MAIZE|bRICE|HERB|FOUR LEAF CLOVER|MAPLE LEAF|FALLENa|LEAF FLUTTERING IN WIND|MUSHROOM
TOMATO|AUBERGINE|GRAPES|MELON|WATERMELON|TANGERINE|LEMON|BANANA|PINEAPPLE|RED APPLE|GREENa|PEAR
PEACH|CHERRIES|STRAWBERRY|HAMBURGER|SLICE OF PIZZA|MEAT ON BONE|POULTRY LEG|RICE CRACKER|aBALL
COOKED RICE|CURRY ANDa|STEAMING BOWL|SPAGHETTI|BREAD|FRENCH FRIES|ROASTED SWEET POTATO|DANGO|ODEN
SUSHI|FRIED SHRIMP|FISH CAKE WITH SWIRL DESIGN|SOFT ICE CREAM|SHAVED ICE|ICE CREAM|DOUGHNUT|COOKIE
CHOCOLATE BAR|CANDY|LOLLIPOP|CUSTARD|HONEY POT|SHORTCAKE|BENTO BOX|POT OF FOOD|COOKING
FORK AND KNIFE|TEACUP WITHOUT HANDLE|SAKE BOTTLE AND CUP|WINE GLASS|COCKTAILa|TROPICAL DRINK
BEER MUG|CLINKING BEER MUGS|BABY BOTTLE|FORK AND KNIFE WITH PLATE|BOTTLE WITH POPPING CORK|POPCORN
RIBBON|WRAPPED PRESENT|BIRTHDAY CAKE|JACK-O-LANTERN|CHRISTMAS TREE|FATHER CHRISTMAS|FIREWORKS
FIREWORK SPARKLER|BALLOON|PARTY POPPER|CONFETTI BALL|TANABATA TREE|CROSSED FLAGS|PINE DECORATION
JAPANESE DOLLS|CARP STREAMER|WIND CHIME|MOON VIEWING CEREMONY|SCHOOL SATCHEL|GRADUATION CAP
HEART WITH TIP ON THE LEFT|BOUQUET OF FLOWERS|MILITARY MEDAL|REMINDER RIBBON
MUSICAL KEYBOARD WITH JACKS|STUDIO MICROPHONE|LEVEL SLIDER|CONTROL KNOBS
BEAMED ASCENDING MUSICAL NOTES|aDESCENDINGb|FILM FRAMES|ADMISSION TICKETS|CAROUSEL HORSE
FERRIS WHEEL|ROLLER COASTER|FISHING POLE AND FISH|MICROPHONE|MOVIE CAMERA|CINEMA|HEADPHONE
ARTIST PALETTE|TOP HAT|CIRCUS TENT|TICKET|CLAPPER BOARD|PERFORMING ARTS|VIDEO GAME|DIRECT HIT
SLOT MACHINE|BILLIARDS|GAME DIE|BOWLING|FLOWER PLAYING CARDS|MUSICAL NOTE|MULTIPLE MUSICAL NOTES
SAXOPHONE|GUITAR|MUSICAL KEYBOARD|TRUMPET|VIOLIN|MUSICAL SCORE|RUNNING SHIRT WITH SASH
TENNIS RACQUET AND BALL|SKI AND SKI BOOT|BASKETBALL AND HOOP|CHEQUERED FLAG|SNOWBOARDER|RUNNER
SURFER|SPORTS MEDAL|TROPHY|HORSE RACING|AMERICAN FOOTBALL|RUGBYa|SWIMMER|WEIGHT LIFTER|GOLFER
RACING MOTORCYCLE|aCAR|CRICKET BAT AND BALL|VOLLEYBALL|FIELD HOCKEY STICK AND BALL
ICE HOCKEY STICK AND PUCK|TABLE TENNIS PADDLE AND BALL|SNOW CAPPED MOUNTAIN|CAMPING
BEACH WITH UMBRELLA|BUILDING CONSTRUCTION|HOUSE BUILDINGS|CITYSCAPE|DERELICT HOUSE BUILDING
CLASSICALa|DESERT|aISLAND|NATIONAL PARK|STADIUM|HOUSE BUILDING|aWITH GARDEN|OFFICE BUILDING
JAPANESE POST OFFICE|EUROPEANb|HOSPITAL|BANK|AUTOMATED TELLER MACHINE|HOTEL|LOVEa
CONVENIENCE STORE|SCHOOL|DEPARTMENT STORE|FACTORY|IZAKAYA LANTERN|JAPANESE CASTLE|EUROPEANa
WHITE PENNANT|BLACKa|WAVING WHITE FLAG|aBLACKa|ROSETTE|BLACKa|LABEL
BADMINTON RACQUET AND SHUTTLECOCK|BOW AND ARROW|AMPHORA|EMOJI MODIFIER FITZPATRICK TYPE-1-2
cTYPE-3|+3|RAT|MOUSE|OX|WATER BUFFALO|COW|TIGER|LEOPARD|RABBIT|CAT|DRAGON|CROCODILE|WHALE|SNAIL
SNAKE|HORSE|RAM|GOAT|SHEEP|MONKEY|ROOSTER|CHICKEN|DOG|PIG|BOAR|ELEPHANT|OCTOPUS|SPIRAL SHELL|BUG
ANT|HONEYBEE|LADY BEETLE|FISH|TROPICALa|BLOWFISH|TURTLE|HATCHING CHICK|BABYa|FRONT-FACINGb|BIRD
PENGUIN|KOALA|POODLE|DROMEDARY CAMEL|BACTRIANa|DOLPHIN|MOUSE FACE|COWa|TIGERa|RABBITa|CATa|DRAGONa
SPOUTING WHALE|HORSE FACE|MONKEYa|DOGa|PIGa|FROGa|HAMSTERa|WOLFa|BEARa|PANDAa|PIG NOSE|PAW PRINTS
CHIPMUNK|EYES|EYE|EAR|NOSE|MOUTH|TONGUE|WHITE UP POINTING BACKHAND INDEX|aDOWNc|aLEFTc|aRIGHTc
FISTED HAND SIGN|WAVINGb|OKb|THUMBS UPa|aDOWNa|CLAPPING HANDSa|OPENb|CROWN|WOMANS HAT|EYEGLASSES
NECKTIE|T-SHIRT|JEANS|DRESS|KIMONO|BIKINI|WOMANS CLOTHES|PURSE|HANDBAG|POUCH|MANS SHOE|ATHLETICa
HIGH-HEELEDa|WOMANS SANDAL|aBOOTS|FOOTPRINTS|BUST IN SILHOUETTE|BUSTSb|BOY|GIRL|MAN|WOMAN|FAMILY
MAN AND WOMAN HOLDING HANDS|TWO MENb|aWOMENb|POLICE OFFICER|WOMAN WITH BUNNY EARS|BRIDE WITH VEIL
PERSON WITH BLOND HAIR|MAN WITH GUA PI MAO|bTURBAN|OLDER MAN|aWOMAN|BABY|CONSTRUCTION WORKER
PRINCESS|JAPANESE OGRE|aGOBLIN|GHOST|BABY ANGEL|EXTRATERRESTRIAL ALIEN|ALIEN MONSTER|IMP|SKULL
INFORMATION DESK PERSON|GUARDSMAN|DANCER|LIPSTICK|NAIL POLISH|FACE MASSAGE|HAIRCUT|BARBER POLE
SYRINGE|PILL|KISS MARK|LOVE LETTER|RING|GEM STONE|KISS|BOUQUET|COUPLE WITH HEART|WEDDING
BEATING HEART|BROKENa|TWO HEARTS|SPARKLING HEART|GROWINGa|HEART WITH ARROW|BLUE HEART|GREENa
YELLOWa|PURPLEa|HEART WITH RIBBON|REVOLVING HEARTS|HEART DECORATION
DIAMOND SHAPE WITH A DOT INSIDE|ELECTRIC LIGHT BULB|ANGER SYMBOL|BOMB|SLEEPING SYMBOL|COLLISIONa
SPLASHING SWEATa|DROPLET|DASH SYMBOL|PILE OF POO|FLEXED BICEPS|DIZZY SYMBOL|SPEECH BALLOON
THOUGHTa|WHITE FLOWER|HUNDRED POINTS SYMBOL|MONEY BAG|CURRENCY EXCHANGE|HEAVY DOLLAR SIGN
CREDIT CARD|BANKNOTE WITH YEN SIGN|bDOLLARa|bEUROa|bPOUNDa|MONEY WITH WINGS
CHART WITH UPWARDS TREND AND YEN SIGN|SEAT|PERSONAL COMPUTER|BRIEFCASE|MINIDISC|FLOPPY DISK
OPTICAL DISC|DVD|FILE FOLDER|OPENb|PAGE WITH CURL|aFACING UP|CALENDAR|TEAR-OFFa|CARD INDEX
CHART WITH UPWARDS TREND|bDOWNWARDSa|BAR CHART|CLIPBOARD|PUSHPIN|ROUNDa|PAPERCLIP|STRAIGHT RULER
TRIANGULARa|BOOKMARK TABS|LEDGER|NOTEBOOK|aWITH DECORATIVE COVER|CLOSED BOOK|OPENa|GREENa|BLUEa
ORANGEa|BOOKS|NAME BADGE|SCROLL|MEMO|TELEPHONE RECEIVER|PAGER|FAX MACHINE|SATELLITE ANTENNA
PUBLIC ADDRESS LOUDSPEAKER|CHEERING MEGAPHONE|OUTBOX TRAY|INBOXa|PACKAGE|E-MAIL SYMBOL
INCOMING ENVELOPE|ENVELOPE WITH DOWNWARDS ARROW ABOVE|CLOSED MAILBOX WITH LOWERED FLAG|cRAISEDa
OPENd|cLOWEREDa|POSTBOX|POSTAL HORN|NEWSPAPER|MOBILE PHONE|bWITH RIGHTWARDS ARROW AT LEFT
VIBRATION MODE|MOBILE PHONE OFF|NO MOBILE PHONES|ANTENNA WITH BARS|CAMERA|aWITH FLASH|VIDEO CAMERA
TELEVISION|RADIO|VIDEOCASSETTE|FILM PROJECTOR|PORTABLE STEREO|PRAYER BEADS
TWISTED RIGHTWARDS ARROWS|CLOCKWISE RIGHTWARDS AND LEFTWARDS OPEN CIRCLEa
gWITH CIRCLED ONE OVERLAY|aDOWNWARDS AND UPWARDS OPEN CIRCLE ARROWS|ANTICLOCKWISEf
LOW BRIGHTNESS SYMBOL|HIGHb|SPEAKER WITH CANCELLATION STROKE|SPEAKER|aWITH ONE SOUND WAVE
bTHREE SOUND WAVES|BATTERY|ELECTRIC PLUG|LEFT-POINTING MAGNIFYING GLASS|RIGHT-POINTINGb
LOCK WITH INK PEN|CLOSED LOCK WITH KEY|KEY|LOCK|OPENa|BELL|aWITH CANCELLATION STROKE|BOOKMARK
LINK SYMBOL|RADIO BUTTON|BACK WITH LEFTWARDS ARROW ABOVE|ENDd
ON WITH EXCLAMATION MARK WITH LEFT RIGHTb|SOON WITH RIGHTWARDSb|TOP WITH UPWARDSb
NO ONE UNDER EIGHTEEN SYMBOL|KEYCAP TEN|INPUT SYMBOL FOR LATIN CAPITAL LETTERS|dSMALLa|cNUMBERS
cSYMBOLS|cLATIN LETTERS|FIRE|ELECTRIC TORCH|WRENCH|HAMMER|NUT AND BOLT|HOCHO|PISTOL|MICROSCOPE
TELESCOPE|CRYSTAL BALL|SIX POINTED STAR WITH MIDDLE DOT|JAPANESE SYMBOL FOR BEGINNER
TRIDENT EMBLEM|BLACK SQUARE BUTTON|WHITEb|LARGE RED CIRCLE|aBLUEa|aORANGE DIAMOND|aBLUEa
SMALL ORANGEa|aBLUEa|UP-POINTING RED TRIANGLE|DOWN-POINTINGb|UP-POINTING SMALLb|DOWN-POINTINGc
LOWER RIGHT SHADOWED WHITE CIRCLE|UPPERd|CIRCLED CROSS POMMEE|CROSS POMMEE WITH HALF-CIRCLE BELOW
aPOMMEE|NOTCHED LEFT SEMICIRCLE WITH THREE DOTS|aRIGHTd|SYMBOL FOR MARKS CHAPTER|WHITE LATIN CROSS
HEAVYb|CELTICa|OM SYMBOL|DOVE OF PEACE|KAABA|MOSQUE|SYNAGOGUE|MENORAH WITH NINE BRANCHES
BOWL OF HYGIEIA|CLOCK FACE ONE OCLOCK|bTWOa|bTHREEa|bFOURa|bFIVEa|bSIXa|bSEVENa|bEIGHTa|bNINEa
bTENa|bELEVENa|bTWELVEa|bONE-THIRTY|bTWO-THIRTY|bTHREE-THIRTY|bFOUR-THIRTY|bFIVE-THIRTY
bSIX-THIRTY|bSEVEN-THIRTY|bEIGHT-THIRTY|bNINE-THIRTY|bTEN-THIRTY|bELEVEN-THIRTY|bTWELVE-THIRTY
RIGHT SPEAKER|bWITH ONE SOUND WAVE|cTHREE SOUND WAVES|BULLHORN|aWITH SOUND WAVES|RINGING BELL|BOOK
CANDLE|MANTELPIECE CLOCK|BLACK SKULL AND CROSSBONES|NO PIRACY|HOLE|MAN IN BUSINESS SUIT LEVITATING
SLEUTH OR SPY|DARK SUNGLASSES|SPIDER|aWEB|JOYSTICK|MAN DANCING|LEFT HAND TELEPHONE RECEIVER
TELEPHONE RECEIVER WITH PAGE|RIGHT HAND TELEPHONE RECEIVER|WHITE TOUCHTONE TELEPHONE|BLACKb
TELEPHONE ON TOP OF MODEM|CLAMSHELL MOBILE PHONE|BACK OF ENVELOPE|STAMPEDa|ENVELOPE WITH LIGHTNING
FLYING ENVELOPE|PEN OVER STAMPEDa|LINKED PAPERCLIPS|BLACK PUSHPIN|LOWER LEFT PENCIL|bBALLPOINT PEN
bFOUNTAINa|bPAINTBRUSH|bCRAYON|LEFT WRITING HAND|TURNED OK HAND SIGN
RAISED HAND WITH FINGERS SPLAYED|REVERSEDe|aTHUMBS UP SIGN|bDOWNa|aVICTORY HAND
aHAND WITH MIDDLE FINGER EXTENDED|RAISED HAND WITH PART BETWEEN MIDDLE AND RING FINGERS
WHITE DOWN POINTING LEFT HAND INDEX|SIDEWAYS WHITE LEFT POINTINGa|bRIGHTb|aBLACK LEFTb|bRIGHTb
BLACK LEFT POINTING BACKHANDa|aRIGHTc|SIDEWAYS WHITE UP POINTINGa|bDOWNb|aBLACK UPb|bDOWNb
BLACK UP POINTING BACKHANDa|aDOWNc|aHEART|DESKTOP COMPUTER|KEYBOARD AND MOUSE
THREE NETWORKED COMPUTERS|PRINTER|POCKET CALCULATOR|BLACK HARD SHELL FLOPPY DISK|WHITEd|SOFTc
TAPE CARTRIDGE|WIRED KEYBOARD|ONE BUTTON MOUSE|TWOb|THREEb|TRACKBALL|OLD PERSONAL COMPUTER
HARD DISK|SCREEN|PRINTER ICON|FAXa|OPTICAL DISCa|DOCUMENT WITH TEXT|cAND PICTURE|bPICTURE|FRAMEb
bTILES|bAN X|BLACK FOLDER|FOLDER|OPENa|CARD INDEX DIVIDERS|aFILE BOX|FILE CABINET|EMPTY NOTE|bPAGE
bPAD|NOTE|aPAGE|aPAD|EMPTY DOCUMENT|aPAGE|aPAGES|DOCUMENT|PAGE|PAGES|WASTEBASKET|SPIRAL NOTE PAD
aCALENDARa|DESKTOP WINDOW|MINIMIZE|MAXIMIZE|OVERLAP|CLOCKWISE RIGHT AND LEFT SEMICIRCLE ARROWS
CANCELLATION X|INCREASE FONT SIZE SYMBOL|DECREASEc|COMPRESSION|OLD KEY|ROLLED-UP NEWSPAPER
PAGE WITH CIRCLED TEXT|STOCK CHART|DAGGER KNIFE|LIPS|SPEAKING HEAD IN SILHOUETTE|THREE RAYS ABOVE
bBELOW|bLEFT|bRIGHT|LEFT SPEECH BUBBLE|RIGHTb|TWO SPEECH BUBBLES|THREEb|LEFT THOUGHT BUBBLE|RIGHTb
LEFT ANGERa|RIGHTb|MOODa|LIGHTNINGb|aMOOD|BALLOT BOX WITH BALLOT|aSCRIPT X|aBOX WITHb|aBOLDb
aBOX WITHc|LIGHT CHECK MARK|BALLOT BOX WITH BOLD CHECK|WORLD MAP|MOUNT FUJI|TOKYO TOWER
STATUE OF LIBERTY|SILHOUETTE OF JAPAN|MOYAI|GRINNING FACE|bWITH SMILING EYES
FACE WITH TEARS OF JOY|SMILING FACE WITH OPEN MOUTH|eAND SMILING EYES|fCOLD SWEAT
fTIGHTLY-CLOSED EYES|cHALO|cHORNS|WINKING FACE|SMILING FACE WITH SMILING EYES
FACE SAVOURING DELICIOUS FOOD|RELIEVED FACE|SMILING FACE WITH HEART-SHAPED EYES|cSUNGLASSES
SMIRKING FACE|NEUTRALa|EXPRESSIONLESSa|UNAMUSEDa|FACE WITH COLD SWEAT|PENSIVE FACE|CONFUSEDa
CONFOUNDEDa|KISSINGa|FACE THROWING A KISS|KISSING FACE WITH SMILING EYES|cCLOSEDa
FACE WITH STUCK-OUT TONGUE|dAND WINKING EYE|eTIGHTLY-CLOSED EYES|DISAPPOINTED FACE|WORRIEDa|ANGRYa
POUTINGa|CRYINGa|PERSEVERINGa|FACE WITH LOOK OF TRIUMPH|DISAPPOINTED BUT RELIEVED FACE
FROWNING FACE WITH OPEN MOUTH|ANGUISHED FACE|FEARFULa|WEARYa|SLEEPYa|TIREDa|GRIMACINGa
LOUDLY CRYINGa|FACE WITH OPEN MOUTH|HUSHED FACE|FACE WITH OPEN MOUTH AND COLD SWEAT
aSCREAMING IN FEAR|ASTONISHED FACE|FLUSHEDa|SLEEPINGa|DIZZYa|FACE WITHOUT MOUTH|aWITH MEDICAL MASK
GRINNING CAT FACE WITH SMILING EYES|CAT FACE WITH TEARS OF JOY|SMILING CAT FACE WITH OPEN MOUTH
dHEART-SHAPED EYES|CAT FACE WITH WRY SMILE|KISSING CAT FACE WITH CLOSED EYES|POUTING CAT FACE
CRYINGb|WEARYb|SLIGHTLY FROWNINGa|aSMILINGa|UPSIDE-DOWNa|FACE WITH ROLLING EYES|bNO GOOD GESTURE
bOKa|PERSON BOWING DEEPLY|SEE-NO-EVIL MONKEY|HEAR-NO-EVILa|SPEAK-NO-EVILa
HAPPY PERSON RAISING ONE HAND|PERSON RAISING BOTH HANDS IN CELEBRATION|aFROWNING
aWITH POUTING FACE|bFOLDED HANDS|NORTH WEST POINTING LEAF|SOUTHc|NORTH EASTb|SOUTHc
TURNED NORTH WESTb|aSOUTHc|aNORTH EASTb|aSOUTHc|NORTH WEST POINTING VINEa|SOUTHd|NORTH EASTc
SOUTHd|HEAVY NORTH WESTc|aSOUTHd|aNORTH EASTc|aSOUTHd|NORTH WEST POINTING BUD|SOUTHc|NORTH EASTb
SOUTHc|HEAVY NORTH WESTb|aSOUTHc|aNORTH EASTb|aSOUTHc|HOLLOW QUILT SQUARE ORNAMENT
dIN BLACK SQUARE|SOLID QUILT SQUARE ORNAMENT|dIN BLACK SQUARE|LEFTWARDS ROCKET|UPWARDSa
RIGHTWARDSa|DOWNWARDSa|SCRIPT LIGATURE ET ORNAMENT|HEAVYd|LIGATURE OPENb|HEAVYd|aAMPERSANDa|SWASHb
SANS-SERIF HEAVY DOUBLE TURNED COMMA QUOTATION MARKa|cCOMMAc|bLOWe|HEAVY INTERROBANGa|SANS-SERIFb
HEAVYc|VERY HEAVY SOLIDUS|bREVERSEa|CHECKER BOARD|REVERSEb|ROCKET|HELICOPTER|STEAM LOCOMOTIVE
RAILWAY CAR|HIGH-SPEED TRAIN|bWITH BULLET NOSE|TRAIN|METRO|LIGHT RAIL|STATION|TRAM|aCAR|BUS
ONCOMINGa|TROLLEYBUS|BUS STOP|MINIBUS|AMBULANCE|FIRE ENGINE|POLICE CAR|ONCOMINGb|TAXI|ONCOMINGa
AUTOMOBILE|ONCOMINGa|RECREATIONAL VEHICLE|DELIVERY TRUCK|ARTICULATED LORRY|TRACTOR|MONORAIL
MOUNTAIN RAILWAY|SUSPENSIONa|MOUNTAIN CABLEWAY|AERIAL TRAMWAY|SHIP|ROWBOAT|SPEEDBOAT
HORIZONTAL TRAFFIC LIGHT|VERTICALb|CONSTRUCTION SIGN|POLICE CARS REVOLVING LIGHT
TRIANGULAR FLAG ON POST|DOOR|NO ENTRY SIGN|SMOKING SYMBOL|NOb|PUT LITTER IN ITS PLACEa
DO NOT LITTERa|POTABLE WATERa|NON-POTABLEb|BICYCLE|NO BICYCLES|BICYCLIST|MOUNTAINa|PEDESTRIAN
NO PEDESTRIANS|CHILDREN CROSSING|MENS SYMBOL|WOMENSa|RESTROOM|BABY SYMBOL|TOILET|WATER CLOSET
SHOWER|BATH|BATHTUB|PASSPORT CONTROL|CUSTOMS|BAGGAGE CLAIM|LEFT LUGGAGE
TRIANGLE WITH ROUNDED CORNERS|PROHIBITED SIGN|CIRCLED INFORMATION SOURCE|BOYS SYMBOL|GIRLSa
COUCH AND LAMP|SLEEPING ACCOMMODATION|SHOPPING BAGS|BELLHOP BELL|BED|PLACE OF WORSHIP
OCTAGONAL SIGN|SHOPPING TROLLEY|STUPA|PAGODA|HINDU TEMPLE|HUT|ELEVATOR|1F6DD:PLAYGROUND SLIDE
WHEEL|RING BUOY|HAMMER AND WRENCH|SHIELD|OIL DRUM|MOTORWAY|RAILWAY TRACK|MOTOR BOAT
UP-POINTING MILITARY AIRPLANE|aAIRPLANE|aSMALLa|SMALLa|NORTHEAST-POINTINGa|AIRPLANE DEPARTURE
aARRIVING|1F6F0:SATELLITE|ONCOMING FIRE ENGINE|DIESEL LOCOMOTIVE|PASSENGER SHIP|SCOOTER|MOTORa
CANOE|SLED|FLYING SAUCER|SKATEBOARD|AUTO RICKSHAW|PICKUP TRUCK|ROLLER SKATE
1F700:ALCHEMICAL SYMBOL FOR QUINTESSENCE|cAIR|cFIRE|cEARTH|cWATER|cAQUAFORTIS|cAQUA REGIA|dREGIA-2
dVITAE|dVITAE-2|cVINEGAR|cVINEGAR-2|+1|cSULFUR|cPHILOSOPHERSa|cBLACKa|cMERCURY SUBLIMATE
dSUBLIMATE-2|+1|cCINNABAR|cSALT|cNITRE|cVITRIOL|cVITRIOL-2|cROCK SALT|dSALT-2|cGOLD|cSILVER
cIRON ORE|dORE-2|cCROCUS OF IRON|cREGULUSb|cCOPPER ORE|cIRON-COPPERa|cSUBLIMATE OF COPPER|cCROCUSb
eCOPPER-2|cCOPPER ANTIMONIATE|cSALT OFb|cSUBLIMATE OF SALT OF COPPER|cVERDIGRIS|cTIN ORE|cLEADa
cANTIMONYa|cSUBLIMATE OF ANTIMONY|cSALTb|cSUBLIMATE OFc|cVINEGARb|cREGULUSb|eANTIMONY-2|cREGULUS
cREGULUS-2|+2|cALKALI|cALKALI-2|cMARCASITE|cSAL-AMMONIAC|cARSENIC|cREALGAR|cREALGAR-2|cAURIPIGMENT
cBISMUTH ORE|cTARTAR|cTARTAR-2|cQUICK LIME|cBORAX|cBORAX-2|+1|cALUM|cOIL|cSPIRIT|cTINCTURE|cGUM
cWAX|cPOWDER|cCALX|cTUTTY|cCAPUT MORTUUM|cSCEPTER OF JOVE|cCADUCEUS|cTRIDENT|cSTARREDa|cLODESTONE
cSOAP|cURINE|cHORSE DUNG|cASHES|cPOTa|cBRICK|cPOWDEREDa|cAMALGAM|cSTRATUM SUPER STRATUM|eSTRATUM-2
cSUBLIMATION|cPRECIPITATE|cDISTILL|cDISSOLVE|cDISSOLVE-2|cPURIFY|cPUTREFACTION|cCRUCIBLE
cCRUCIBLE-2|+3|cALEMBIC|cBATH OF MARY|eVAPOURS|cRETORT|cHOUR|cNIGHT|cDAY-NIGHT|cMONTH|cHALF DRAM
dOUNCE|1F780:BLACK LEFT-POINTING ISOSCELES RIGHT TRIANGLE|aUP-POINTINGc|aRIGHT-POINTINGc
aDOWN-POINTINGc|aSLIGHTLY SMALL CIRCLE|MEDIUM BOLD WHITEa|BOLDb|HEAVYb|VERYc|EXTREMELYc
WHITE CIRCLE CONTAINING BLACK SMALLa|ROUND TARGET|BLACK TINY SQUARE|aSLIGHTLY SMALLa|LIGHT WHITEa
MEDIUMb|BOLDb|HEAVYb|VERYc|EXTREMELYc|WHITE SQUARE CONTAINING BLACK VERY SMALLa|dMEDIUMa
SQUARE TARGET|BLACK TINY DIAMOND|aVERY SMALLa|aMEDIUMb|WHITE DIAMOND CONTAINING BLACK VERYb
dMEDIUMa|DIAMOND TARGET|BLACK TINY LOZENGE|aVERY SMALLa|aMEDIUMb|WHITE LOZENGE CONTAINING BLACKb
THIN GREEK CROSS|LIGHTb|MEDIUMb|BOLDb|VERYc|aHEAVYb|EXTREMELYc|THIN SALTIRE|LIGHTa|MEDIUMa|BOLDa
HEAVYa|VERYb|EXTREMELYb|LIGHT FIVE SPOKED ASTERISK|MEDIUMc|BOLDc|HEAVYc|VERYd|EXTREMELYd
LIGHT SIXb|MEDIUMc|BOLDc|HEAVYc|VERYd|EXTREMELYd|LIGHT EIGHTb|MEDIUMc|BOLDc|HEAVYc|VERYd
LIGHT THREE POINTED BLACK STAR|MEDIUMd|THREEc|MEDIUM THREE POINTED PINWHEELa
LIGHT FOUR POINTED BLACKa|MEDIUMd|FOURc|MEDIUM FOUR POINTED PINWHEELa|REVERSE LIGHTd
LIGHT FIVE POINTED BLACKa|HEAVYd|MEDIUM SIXc|HEAVYd|SIX POINTED PINWHEELa
MEDIUM EIGHT POINTED BLACKa|HEAVYd|VERYe|HEAVY EIGHT POINTED PINWHEELa|LIGHT TWELVE POINTED BLACKa
HEAVYd|cPINWHEELa|CIRCLED TRIANGLE|NEGATIVEb|CIRCLED SQUARE|NEGATIVEb|1F7E0:LARGE ORANGE CIRCLE
aYELLOWa|aGREENa|aPURPLEa|aBROWNa|aRED SQUARE|aBLUEa|aORANGEa|aYELLOWa|aGREENa|aPURPLEa|aBROWNa
1F7F0:HEAVY EQUALS SIGN|1F800:LEFTWARDS ARROW WITH SMALL TRIANGLE ARROWHEAD|UPWARDSe|RIGHTWARDSe
DOWNWARDSe|LEFTWARDS ARROW WITH MEDIUMb|UPWARDSe|RIGHTWARDSe|DOWNWARDSe
LEFTWARDS ARROW WITH LARGEb|UPWARDSe|RIGHTWARDSe|DOWNWARDSe
1F810:LEFTWARDS ARROW WITH SMALL EQUILATERALa|UPWARDSe|RIGHTWARDSe|DOWNWARDSe
LEFTWARDS ARROW WITHb|UPWARDSd|RIGHTWARDSd|DOWNWARDSd|HEAVY LEFTWARDSd|aUPWARDSd|aRIGHTWARDSd
aDOWNWARDSd|aLEFTWARDS ARROW WITH LARGEb|aUPWARDSe|aRIGHTWARDSe|aDOWNWARDSe
LEFTWARDS TRIANGLE-HEADED ARROW WITH NARROW SHAFT|UPWARDSe|RIGHTWARDSe|DOWNWARDSe
LEFTWARDS TRIANGLE-HEADED ARROW WITH MEDIUMa|UPWARDSe|RIGHTWARDSe|DOWNWARDSe
LEFTWARDS TRIANGLE-HEADED ARROW WITH BOLDa|UPWARDSe|RIGHTWARDSe|DOWNWARDSe
LEFTWARDS TRIANGLE-HEADED ARROW WITH HEAVYa|UPWARDSe|RIGHTWARDSe|DOWNWARDSe
LEFTWARDS TRIANGLE-HEADED ARROW WITH VERYb|UPWARDSf|RIGHTWARDSf|DOWNWARDSf
LEFTWARDS FINGER-POST ARROW|UPWARDSb|RIGHTWARDSb|DOWNWARDSb|LEFTWARDS SQUAREDa|UPWARDSb
RIGHTWARDSb|DOWNWARDSb|LEFTWARDS COMPRESSEDa|UPWARDSb|RIGHTWARDSb|DOWNWARDSb|LEFTWARDS HEAVYb
UPWARDSc|RIGHTWARDSc|DOWNWARDSc|LEFTWARDS HEAVYa|UPWARDSb|RIGHTWARDSb|DOWNWARDSb
1F850:LEFTWARDS SANS-SERIFa|UPWARDSb|RIGHTWARDSb|DOWNWARDSb|NORTH WESTb|aEASTb|SOUTHc|aWESTb
LEFT RIGHTb|UP DOWNb|1F860:WIDE-HEADED LEFTWARDS LIGHT BARBa|aUPWARDSc|aRIGHTWARDSc|aDOWNWARDSc
aNORTH WESTc|bEASTc|aSOUTHd|bWESTc|aLEFTWARDSb|aUPWARDSb|aRIGHTWARDSb|aDOWNWARDSb|aNORTH WESTb
bEASTb|aSOUTHc|bWESTb|aLEFTWARDS MEDIUMb|aUPWARDSc|aRIGHTWARDSc|aDOWNWARDSc|aNORTH WESTc|bEASTc
aSOUTHd|bWESTc|aLEFTWARDS HEAVYb|aUPWARDSc|aRIGHTWARDSc|aDOWNWARDSc|aNORTH WESTc|bEASTc|aSOUTHd
bWESTc|aLEFTWARDS VERYc|aUPWARDSd|aRIGHTWARDSd|aDOWNWARDSd|aNORTH WESTd|bEASTd|aSOUTHe|bWESTd
1F890:LEFTWARDS TRIANGLE ARROWHEAD|UPWARDSb|RIGHTWARDSb|DOWNWARDSb|LEFTWARDS WHITE ARROW WITHINb
UPWARDSe|RIGHTWARDSe|DOWNWARDSe|LEFTWARDS ARROW WITH NOTCHED TAIL|UPWARDSd|RIGHTWARDSd|DOWNWARDSd
HEAVY ARROW SHAFT WIDTH ONE|dTWO THIRDS|dONE HALF|eTHIRD|LEFTWARDS BOTTOM-SHADED WHITE ARROW
RIGHTWARDS BOTTOM SHADEDb|LEFTWARDS TOPc|RIGHTWARDSd|LEFTWARDS LEFT-SHADEDb
RIGHTWARDS RIGHT-SHADEDb|LEFTWARDSc|RIGHTWARDS LEFT-SHADEDb|LEFTWARDS BACK-TILTED SHADOWEDb
RIGHTWARDSd|LEFTWARDS FRONT-TILTEDc|RIGHTWARDSd|WHITE ARROW SHAFT WIDTH ONE|dTWO THIRDS
1F8B0:ARROW POINTING UPWARDS THEN NORTH WEST|bRIGHTWARDS THEN CURVING SOUTHa
1F900:CIRCLED CROSS FORMEE WITH FOUR DOTS|dTWOa|bFORMEE|LEFT HALF CIRCLE WITH FOUR DOTS|dTHREEa
dTWOa|dDOT|bCIRCLE|DOWNWARD FACING HOOK|bNOTCHEDa|bHOOK WITH DOT|bNOTCHEDc|PINCHED FINGERS
WHITE HEART|BROWNa|PINCHING HAND|ZIPPER-MOUTH FACE|MONEY-MOUTHa|FACE WITH THERMOMETER|NERD FACE
THINKINGa|FACE WITH HEAD-BANDAGE|ROBOT FACE|HUGGINGa|SIGN OF THE HORNS|CALL ME HAND
RAISED BACK OFa|LEFT-FACING FIST|RIGHT-FACINGa|HANDSHAKE
HAND WITH INDEX AND MIDDLE FINGERS CROSSED|I LOVE YOU HAND SIGN|FACE WITH COWBOY HAT|CLOWN FACE
NAUSEATEDa|ROLLING ON THE FLOOR LAUGHING|DROOLING FACE|LYINGa|FACE PALM|SNEEZING FACE
FACE WITH ONE EYEBROW RAISED|GRINNING FACE WITH STAR EYES|cONE LARGE AND ONE SMALL EYE
FACE WITH FINGER COVERING CLOSED LIPS|SERIOUS FACE WITH SYMBOLS COVERING MOUTH
SMILING FACE WITH SMILING EYES AND HANDb|FACE WITH OPEN MOUTH VOMITING
SHOCKED FACE WITH EXPLODING HEAD|PREGNANT WOMAN|BREAST-FEEDING|PALMS UP TOGETHER|SELFIE|PRINCE
MAN IN TUXEDO|MOTHER CHRISTMAS|SHRUG|PERSON DOING CARTWHEEL|JUGGLING|FENCER|MODERN PENTATHLON
WRESTLERS|WATER POLO|HANDBALL|DIVING MASK|WILTED FLOWER|DRUM WITH DRUMSTICKS|CLINKING GLASSES
TUMBLER GLASS|SPOON|GOAL NET|RIFLE|FIRST PLACE MEDAL|SECONDb|THIRDb|BOXING GLOVE
MARTIAL ARTS UNIFORM|CURLING STONE|LACROSSE STICK AND BALL|SOFTBALL|FLYING DISC|CROISSANT|AVOCADO
CUCUMBER|BACON|POTATO|CARROT|BAGUETTE BREAD|GREEN SALAD|SHALLOW PAN OF FOOD|STUFFED FLATBREAD|EGG
GLASS OF MILK|PEANUTS|KIWIFRUIT|PANCAKES|DUMPLING|FORTUNE COOKIE|TAKEOUT BOX|CHOPSTICKS
BOWL WITH SPOON|CUP WITH STRAW|COCONUT|BROCCOLI|PIE|PRETZEL|CUT OF MEAT|SANDWICH|CANNED FOOD
LEAFY GREEN|MANGO|MOON CAKE|BAGEL|SMILING FACE WITH SMILING EYES AND THREE HEARTS|YAWNING FACE
SMILING FACE WITH TEAR|FACE WITH PARTY HORN AND PARTY HAT|bUNEVEN EYES AND WAVY MOUTH
OVERHEATED FACE|FREEZINGa|NINJA|DISGUISED FACE|FACE HOLDING BACK TEARS|aWITH PLEADING EYES|SARI
LAB COAT|GOGGLES|HIKING BOOT|FLAT SHOE|CRAB|LION FACE|SCORPION|TURKEY|UNICORN FACE|EAGLE|DUCK|BAT
SHARK|OWL|FOX FACE|BUTTERFLY|DEER|GORILLA|LIZARD|RHINOCEROS|SHRIMP|SQUID|GIRAFFE FACE|ZEBRAa
HEDGEHOG|SAUROPOD|T-REX|CRICKET|KANGAROO|LLAMA|PEACOCK|HIPPOPOTAMUS|PARROT|RACCOON|LOBSTER
MOSQUITO|MICROBE|BADGER|SWAN|MAMMOTH|DODO|SLOTH|OTTER|ORANGUTAN|SKUNK|FLAMINGO|OYSTER|BEAVER|BISON
SEAL|GUIDE DOG|PROBING CANE|EMOJI COMPONENT RED HAIR|bCURLYa|bBALD|bWHITE HAIR|BONE|LEG|FOOT|TOOTH
SUPERHERO|SUPERVILLAIN|SAFETY VEST|EAR WITH HEARING AID|MOTORIZED WHEELCHAIR|MANUALa
MECHANICAL ARM|aLEG|CHEESE WEDGE|CUPCAKE|SALT SHAKER|BEVERAGE BOX|GARLIC|ONION|FALAFEL|WAFFLE
BUTTER|MATE DRINK|ICE CUBE|BUBBLE TEA|TROLL|STANDING PERSON|KNEELINGa|DEAFa|FACE WITH MONOCLE
ADULT|CHILD|OLDER ADULT|BEARDED PERSON|PERSON WITH HEADSCARF|aIN STEAMY ROOM|aCLIMBING
aIN LOTUS POSITION|MAGE|FAIRY|VAMPIRE|MERPERSON|ELF|GENIE|ZOMBIE|BRAIN|ORANGE HEART|BILLED CAP
SCARF|GLOVES|COAT|SOCKS|RED GIFT ENVELOPE|FIRECRACKER|JIGSAW PUZZLE PIECE|TEST TUBE|PETRI DISH
DNA DOUBLE HELIX|COMPASS|ABACUS|FIRE EXTINGUISHER|TOOLBOX|BRICK|MAGNET|LUGGAGE|LOTION BOTTLE
SPOOL OF THREAD|BALL OF YARN|SAFETY PIN|TEDDY BEAR|BROOM|BASKET|ROLL OF PAPER|BAR OF SOAP|SPONGE
RECEIPT|NAZAR AMULET|NEUTRAL CHESS KING|bQUEEN|bROOK|bBISHOP|bKNIGHT|bPAWN
WHITE CHESS KNIGHT ROTATED FORTY-FIVE DEGREES|BLACKe|NEUTRALe|WHITE CHESS KING ROTATED NINETYa
bQUEENc|bROOKc|bBISHOPc|bKNIGHTc|bPAWNc|BLACK CHESS KINGc|bQUEENc|bROOKc|bBISHOPc|bKNIGHTc|bPAWNc
NEUTRAL CHESS KINGc|bQUEENc|bROOKc|bBISHOPc|bKNIGHTc|bPAWNc
WHITE CHESS KNIGHT ROTATED ONE HUNDRED THIRTY-FIVEa|BLACKg|NEUTRALg|WHITE CHESS TURNED KING|cQUEEN
cROOK|cBISHOP|cKNIGHT|cPAWN|BLACK CHESS TURNED KING|cQUEEN|cROOK|cBISHOP|cKNIGHT|cPAWN
NEUTRAL CHESS TURNED KING|cQUEEN|cROOK|cBISHOP|cKNIGHT|cPAWN
WHITE CHESS KNIGHT ROTATED TWO HUNDRED TWENTY-FIVE DEGREES|BLACKg|NEUTRALg
WHITE CHESS KING ROTATED TWO HUNDRED SEVENTYa|bQUEENe|bROOKe|bBISHOPe|bKNIGHTe|bPAWNe
BLACK CHESS KINGe|bQUEENe|bROOKe|bBISHOPe|bKNIGHTe|bPAWNe|NEUTRAL CHESS KINGe|bQUEENe|bROOKe
bBISHOPe|bKNIGHTe|bPAWNe|WHITE CHESS KNIGHT ROTATED THREE HUNDRED FIFTEENa|BLACKg|NEUTRALg
WHITE CHESS EQUIHOPPER|BLACKb|NEUTRALb|WHITE CHESS EQUIHOPPER ROTATED NINETY DEGREES|BLACKe
NEUTRALe|WHITE CHESS KNIGHT-QUEEN|bKNIGHT-ROOK|bKNIGHT-BISHOP|BLACK CHESS KNIGHT-QUEEN
bKNIGHT-ROOK|bKNIGHT-BISHOP|1FA60:XIANGQI RED GENERAL|bMANDARIN|bELEPHANT|bHORSE|bCHARIOT|bCANNON
bSOLDIER|aBLACK GENERAL|bMANDARIN|bELEPHANT|bHORSE|bCHARIOT|bCANNON|bSOLDIER|1FA70:BALLET SHOES
ONE-PIECE SWIMSUIT|BRIEFS|SHORTS|THONG SANDAL|1FA78:DROP OF BLOOD|ADHESIVE BANDAGE|STETHOSCOPE
X-RAY|CRUTCH|1FA80:YO-YO|KITE|PARACHUTE|BOOMERANG|MAGIC WAND|PINATA|NESTING DOLLS
1FA90:RINGED PLANET|CHAIR|RAZOR|AXE|DIYA LAMP|BANJO|MILITARY HELMET|ACCORDION|LONG DRUM|COIN
CARPENTRY SAW|SCREWDRIVER|LADDER|HOOK|MI\x52ROR|WINDOW|PLUNGER|SEWING NEEDLE|KNOT|BUCKET
MOUSE TRAP|TOOTHBRUSH|HEADSTONE|PLACARD|ROCK|MI\x52ROR BALL|IDENTIFICATION CARD|LOW BATTERY|HAMSA
1FAB0:FLY|WORM|BEETLE|COCKROACH|POTTED PLANT|WOOD|FEATHER|LOTUS|CORAL|EMPTY NEST|NEST WITH EGGS
1FAC0:ANATOMICAL HEART|LUNGS|PEOPLE HUGGING|PREGNANT MAN|aPERSON|PERSON WITH CROWN
1FAD0:BLUEBERRIES|BELL PEPPER|OLIVE|FLATBREAD|TAMALE|FONDUE|TEAPOT|POURING LIQUID|BEANS|JAR
1FAE0:MELTING FACE|SALUTINGa|FACE WITH OPEN EYES AND HAND OVER MOUTH|bPEEKING EYE|bDIAGONAL MOUTH
DOTTED LINE FACE|BITING LIP|BUBBLES|1FAF0:HAND WITH INDEX FINGER AND THUMB CROSSED|RIGHTWARDS HAND
LEFTWARDSa|PALM DOWNa|aUPa|INDEX POINTING AT THE VIEWER|HEART HANDS|1FB00:BLOCK SEXTANT-1|+1
aSEXTANT-12|aSEXTANT-3|aSEXTANT-13|aSEXTANT-23|aSEXTANT-123|aSEXTANT-4|aSEXTANT-14|aSEXTANT-24
aSEXTANT-124|aSEXTANT-34|aSEXTANT-134|aSEXTANT-234|aSEXTANT-1234|aSEXTANT-5|aSEXTANT-15
aSEXTANT-25|aSEXTANT-125|aSEXTANT-35|aSEXTANT-235|aSEXTANT-1235|aSEXTANT-45|aSEXTANT-145
aSEXTANT-245|aSEXTANT-1245|aSEXTANT-345|aSEXTANT-1345|aSEXTANT-2345|aSEXTANT-12345|aSEXTANT-6
aSEXTANT-16|aSEXTANT-26|aSEXTANT-126|aSEXTANT-36|aSEXTANT-136|aSEXTANT-236|aSEXTANT-1236
aSEXTANT-46|aSEXTANT-146|aSEXTANT-1246|aSEXTANT-346|aSEXTANT-1346|aSEXTANT-2346|aSEXTANT-12346
aSEXTANT-56|aSEXTANT-156|aSEXTANT-256|aSEXTANT-1256|aSEXTANT-356|aSEXTANT-1356|aSEXTANT-2356
aSEXTANT-12356|aSEXTANT-456|aSEXTANT-1456|aSEXTANT-2456|aSEXTANT-12456|aSEXTANT-3456
aSEXTANT-13456|aSEXTANT-23456|LOWER LEFT BLOCK DIAGONAL LOWER MIDDLE LEFT TO LOWER CENTRE|iRIGHT
dUPPER MIDDLE LEFT TO LOWER CENTRE|iRIGHT|eLEFT TO LOWER CENTRE
aRIGHT BLOCK DIAGONAL UPPER MIDDLE LEFT TO UPPERa|iRIGHT|dLOWER MIDDLE LEFT TO UPPER CENTRE|iRIGHT
eLEFT TO UPPER CENTRE|eMIDDLE LEFT TO UPPER MIDDLE RIGHT|eCENTRE TO LOWERb|eLEFTd
eCENTRE TO UPPERb|eLEFTd|eCENTRE TO UPPERa|aLEFT BLOCK DIAGONAL UPPER CENTRE TO UPPER MIDDLEa
eLEFTd|eCENTRE TO LOWERb|eLEFTd|eCENTRE TO LOWERa|eMIDDLE LEFT TO LOWER MIDDLEa
UPPER RIGHT BLOCK DIAGONAL LOWER MIDDLE LEFT TO LOWER CENTRE|iRIGHT
dUPPER MIDDLE LEFT TO LOWER CENTRE|iRIGHT|eLEFT TO LOWER CENTRE
aLEFT BLOCK DIAGONAL UPPER MIDDLE LEFT TO UPPERa|iRIGHT|dLOWER MIDDLE LEFT TO UPPER CENTRE|iRIGHT
eLEFT TO UPPER CENTRE|eMIDDLE LEFT TO UPPER MIDDLE RIGHT|eCENTRE TO LOWERb|eLEFTd
eCENTRE TO UPPERb|eLEFTd|eCENTRE TO UPPERa|aRIGHT BLOCK DIAGONAL UPPER CENTRE TO UPPER MIDDLEa
eLEFTd|eCENTRE TO LOWERb|eLEFTd|eCENTRE TO LOWERa|eMIDDLE LEFT TO LOWER MIDDLEa
aAND RIGHT AND LOWER TRIANGULAR THREE QUARTERS BLOCK|LEFT AND LOWER AND RIGHTd
UPPER AND LEFT AND LOWERd|LEFT AND UPPER AND RIGHTd|aTRIANGULAR ONE QUARTERa|UPPERd|RIGHTd|LOWERd
VERTICAL ONE EIGHTH BLOCK-2|+5|HORIZONTAL ONE EIGHTH BLOCK-2|+5|LEFT AND LOWER ONE EIGHTH BLOCK
bUPPERc|RIGHTe|bLOWERc|UPPERe|HORIZONTAL ONE EIGHTH BLOCK-1358|UPPER ONE QUARTER BLOCK
aTHREE EIGHTHSa|aFIVEb|aTHREE QUARTERSa|aSEVEN EIGHTHSa|RIGHT ONE QUARTERa|aTHREE EIGHTHSa|aFIVEb
aTHREE QUARTERSa|aSEVEN EIGHTHSa|LEFT HALF MEDIUM SHADE|RIGHTc|UPPERc|LOWERc|INVERSEb
UPPER HALF BLOCK AND LOWER HALFc|bINVERSE MEDIUM SHADE AND LOWER HALF BLOCK
1FB94:LEFT HALF INVERSE MEDIUM SHADE AND RIGHTb|CHECKER BOARD FILL|INVERSEc|HEAVY HORIZONTALa
UPPER LEFT TO LOWER RIGHTa|aRIGHT TO LOWER LEFTa|aAND LOWER TRIANGULAR HALF BLOCK|LEFT AND RIGHTc
UPPER LEFT TRIANGULAR MEDIUM SHADE|aRIGHTc|LOWERd|aLEFTc
BOX DRAWINGS LIGHT DIAGONAL UPPER CENTRE TO MIDDLE LEFT|hRIGHT|dMIDDLE LEFT TO LOWER CENTRE
eRIGHTc|dUPPER CENTRE TO MIDDLE LEFTc|hRIGHTc|dMIDDLE LEFT TO LOWER CENTRE TO MIDDLE RIGHT|gUPPERd
dUPPER CENTRE TO MIDDLE LEFT AND MIDDLE RIGHT TO LOWER CENTRE|hRIGHT AND MIDDLE LEFTc
iTO LOWER CENTRE TO MIDDLE LEFT|hLEFT TO LOWER CENTRE TO MIDDLE RIGHT
dMIDDLE LEFT TO UPPER CENTRE TO MIDDLE RIGHT TO LOWER CENTRE
eRIGHT TO UPPER CENTRE TO MIDDLE LEFTc|dDIAMOND|cHORIZONTAL WITH VERTICAL STROKE
ARROWHEAD-SHAPED POINTER|INVERSE CHECK MARK|LEFT HALF RUNNING MAN|RIGHTc
INVERSE DOWNWARDS ARROW WITH TIP LEFTWARDS|LEFTWARDS ARROW AND UPPER AND LOWER ONE EIGHTH BLOCK
RIGHTWARDSh|DOWNWARDS ARROW AND RIGHTc|UPWARDSf|LEFT HALF FOLDER|RIGHTb|VOIDED GREEK CROSS
RIGHT OPEN SQUARED DOT|NEGATIVE DIAGONAL CROSS|bMIDDLE RIGHT TO LOWER CENTRE|bDIAMOND
WHITE HEAVY SALTIRE WITH ROUNDED CORNERS|LEFT THIRD WHITE RIGHT POINTING INDEX|MIDDLEe|RIGHTe
NEGATIVE SQUARED QUESTION MARK|STICK FIGURE|bWITH ARMS RAISED|bLEANING LEFT|cRIGHT|bWITH DRESS
WHITE UP-POINTING CHEVRON|1FBF0:SEGMENTED DIGIT ZERO|bONE|bTWO|bTHREE|bFOUR|bFIVE|bSIX|bSEVEN
bEIGHT|bNINE|2F800:CJK COMPATIBILITY IDEOGRAPH-#|+541|E0001:LANGUAGE TAG|E0020:TAG SPACE
aEXCLAMATION MARK|aQUOTATIONa|aNUMBER SIGN|aDOLLARa|aPERCENTa|aAMPERSAND|aAPOSTROPHE
aLEFT PARENTHESIS|aRIGHTa|aASTERISK|aPLUS SIGN|aCOMMA|aHYPHEN-MINUS|aFULL STOP|aSOLIDUS
aDIGIT ZERO|bONE|bTWO|bTHREE|bFOUR|bFIVE|bSIX|bSEVEN|bEIGHT|bNINE|aCOLON|aSEMICOLON
aLESS-THAN SIGN|aEQUALSa|aGREATER-THANa|aQUESTION MARK|aCOMMERCIAL AT|aLATIN CAPITAL LETTER A|dB
dC|dD|dE|dF|dG|dH|dI|dJ|dK|dL|dM|dN|dO|dP|dQ|dR|dS|dT|dU|dV|dW|dX|dY|dZ|aLEFT SQUARE BRACKET
aREVERSE SOLIDUS|aRIGHT SQUARE BRACKET|aCIRCUMFLEX ACCENT|aLOW LINE|aGRAVE ACCENT
aLATIN SMALL LETTER A|dB|dC|dD|dE|dF|dG|dH|dI|dJ|dK|dL|dM|dN|dO|dP|dQ|dR|dS|dT|dU|dV|dW|dX|dY|dZ
aLEFT CURLY BRACKET|aVERTICAL LINE|aRIGHT CURLY BRACKET|aTILDE|CANCEL TAG
E0100:VARIATION SELECTOR-17|+239"

end SchemaFold.Text
