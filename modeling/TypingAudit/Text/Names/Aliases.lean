/-!
Second names of characters: of controls, which have no other, of wrongly named characters, and short forms.
Each stands after its code point.
-/

namespace TypingAudit.Text.Names

def aliases : List String := [
  "0 NUL,0 NULL,1 SOH,1 START OF HEADING,2 START OF TEXT,2 STX,3 END OF TEXT,3 ETX",
  "4 END OF TRANSMISSION,4 EOT,5 ENQ,5 ENQUIRY,6 ACK,6 ACKNOWLEDGE,7 ALERT,7 BEL,8 BACKSPACE,8 BS",
  "9 CHARACTER TABULATION,9 HORIZONTAL TABULATION,9 HT,9 TAB,a END OF LINE,a EOL,a LF,a LINE FEED",
  "a NEW LINE,a NL,b LINE TABULATION,b VERTICAL TABULATION,b VT,c FF,c FORM FEED",
  "d CARRIAGE RETURN,d CR,e LOCKING-SHIFT ONE,e SHIFT OUT,e SO,f LOCKING-SHIFT ZERO,f SHIFT IN",
  "f SI,10 DATA LINK ESCAPE,10 DLE,11 DC1,11 DEVICE CONTROL ONE,12 DC2,12 DEVICE CONTROL TWO",
  "13 DC3,13 DEVICE CONTROL THREE,14 DC4,14 DEVICE CONTROL FOUR,15 NAK,15 NEGATIVE ACKNOWLEDGE",
  "16 SYN,16 SYNCHRONOUS IDLE,17 END OF TRANSMISSION BLOCK,17 ETB,18 CAN,18 CANCEL",
  "19 END OF MEDIUM,19 EOM,1a SUB,1a SUBSTITUTE,1b ESC,1b ESCAPE,1c FILE SEPARATOR,1c FS",
  "1c INFORMATION SEPARATOR FOUR,1d GROUP SEPARATOR,1d GS,1d INFORMATION SEPARATOR THREE",
  "1e INFORMATION SEPARATOR TWO,1e RECORD SEPARATOR,1e RS,1f INFORMATION SEPARATOR ONE",
  "1f UNIT SEPARATOR,1f US,20 SP,7f DEL,7f DELETE,80 PAD,80 PADDING CHARACTER",
  "81 HIGH OCTET PRESET,81 HOP,82 BPH,82 BREAK PERMITTED HERE,83 NBH,83 NO BREAK HERE,84 IND",
  "84 INDEX,85 NEL,85 NEXT LINE,86 SSA,86 START OF SELECTED AREA,87 END OF SELECTED AREA,87 ESA",
  "88 CHARACTER TABULATION SET,88 HORIZONTAL TABULATION SET,88 HTS",
  "89 CHARACTER TABULATION WITH JUSTIFICATION,89 HORIZONTAL TABULATION WITH JUSTIFICATION,89 HTJ",
  "8a LINE TABULATION SET,8a VERTICAL TABULATION SET,8a VTS,8b PARTIAL LINE DOWN",
  "8b PARTIAL LINE FORWARD,8b PLD,8c PARTIAL LINE BACKWARD,8c PARTIAL LINE UP,8c PLU",
  "8d REVERSE INDEX,8d REVERSE LINE FEED,8d RI,8e SINGLE SHIFT TWO,8e SINGLE-SHIFT-2,8e SS2",
  "8f SINGLE SHIFT THREE,8f SINGLE-SHIFT-3,8f SS3,90 DCS,90 DEVICE CONTROL STRING",
  "91 PRIVATE USE ONE,91 PRIVATE USE-1,91 PU1,92 PRIVATE USE TWO,92 PRIVATE USE-2,92 PU2",
  "93 SET TRANSMIT STATE,93 STS,94 CANCEL CHARACTER,94 CCH,95 MESSAGE WAITING,95 MW,96 SPA",
  "96 START OF GUARDED AREA,96 START OF PROTECTED AREA,97 END OF GUARDED AREA",
  "97 END OF PROTECTED AREA,97 EPA,98 SOS,98 START OF STRING,99 SGC",
  "99 SINGLE GRAPHIC CHARACTER INTRODUCER,9a SCI,9a SINGLE CHARACTER INTRODUCER",
  "9b CONTROL SEQUENCE INTRODUCER,9b CSI,9c ST,9c STRING TERMINATOR,9d OPERATING SYSTEM COMMAND",
  "9d OSC,9e PM,9e PRIVACY MESSAGE,9f APC,9f APPLICATION PROGRAM COMMAND,a0 NBSP,ad SHY",
  "1a2 LATIN CAPITAL LETTER GHA,1a3 LATIN SMALL LETTER GHA,34f CGJ,61c ALM",
  "709 SYRIAC SUBLINEAR COLON SKEWED LEFT,cde KANNADA LETTER LLLA,e9d LAO LETTER FO FON",
  "e9f LAO LETTER FO FAY,ea3 LAO LETTER RO,ea5 LAO LETTER LO",
  "fd0 TIBETAN MARK BKA- SHOG GI MGO RGYAN,11ec HANGUL JONGSEONG YESIEUNG-KIYEOK",
  "11ed HANGUL JONGSEONG YESIEUNG-SSANGKIYEOK,11ee HANGUL JONGSEONG SSANGYESIEUNG",
  "11ef HANGUL JONGSEONG YESIEUNG-KHIEUKH,180b FVS1,180c FVS2,180d FVS3,180e MVS,180f FVS4",
  "200b ZWSP,200c ZWNJ,200d ZWJ,200e LRM,200f RLM,202a LRE,202b RLE,202c PDF,202d LRO,202e RLO",
  "202f NNBSP,205f MMSP,2060 WJ,2066 LRI,2067 RLI,2068 FSI,2069 PDI",
  "2118 WEIERSTRASS ELLIPTIC FUNCTION,2448 MICR ON US SYMBOL,2449 MICR DASH SYMBOL",
  "2b7a LEFTWARDS TRIANGLE-HEADED ARROW WITH DOUBLE VERTICAL STROKE",
  "2b7c RIGHTWARDS TRIANGLE-HEADED ARROW WITH DOUBLE VERTICAL STROKE",
  "a015 YI SYLLABLE ITERATION MARK,aa6e MYANMAR LETTER KHAMTI LLA",
  "fe18 PRESENTATION FORM FOR VERTICAL RIGHT WHITE LENTICULAR BRACKET,feff BOM",
  "feff BYTE ORDER MARK,feff ZWNBSP,122d4 CUNEIFORM SIGN NU11 TENU",
  "122d5 CUNEIFORM SIGN NU11 OVER NU11 BUR OVER BUR,16e56 MEDEFAIDRIN CAPITAL LETTER H",
  "16e57 MEDEFAIDRIN CAPITAL LETTER NG,16e76 MEDEFAIDRIN SMALL LETTER H",
  "16e77 MEDEFAIDRIN SMALL LETTER NG,1b001 HENTAIGANA LETTER E-1",
  "1d0c5 BYZANTINE MUSICAL SYMBOL FTHORA SKLIRON CHROMA VASIS"]

end TypingAudit.Text.Names
