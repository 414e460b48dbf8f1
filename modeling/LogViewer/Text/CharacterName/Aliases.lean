/-!
# Names of characters: aliases

Further names, most of them of control characters, which have no name of their own. The notation
is that of `LogViewer.Text.NameTable`.
-/

namespace LogViewer.Text.CharacterName

/-- Further names. -/
def aliases : String :=
"0:aNULL,0:aNUL,aSTART OF HEADING,1:aSOH,aSTART OF TEXT,2:aSTX,aEND OF TEXT,3:aETX
aEND OF TRANSMISSION,4:aEOT,aENQUIRY,5:aENQ,aACKNOWLEDGE,6:aACK,aALERT,7:aBEL,aBACKSPACE,8:aBS
aCHARACTER TABULATION,9:aHORIZONTAL TABULATION,9:aHT,9:aTAB,aLINE FEED,a:aNEW LINE,a:aEND OF LINE
a:aEOL,a:aLF,a:aNL,aLINE TABULATION,b:aVERTICAL TABULATION,b:aVT,aFORM FEED,c:aFF,aCARRIAGE RETURN
d:aCR,aSHIFT OUT,e:aLOCKING-SHIFT ONE,e:aSO,aSHIFT IN,f:aLOCKING-SHIFT ZERO,f:aSI
aDATA LINK ESCAPE,10:aDLE,aDEVICE CONTROL ONE,11:aDC1,aDEVICE CONTROL TWO,12:aDC2
aDEVICE CONTROL THREE,13:aDC3,aDEVICE CONTROL FOUR,14:aDC4,aNEGATIVE ACKNOWLEDGE,15:aNAK
aSYNCHRONOUS IDLE,16:aSYN,aEND OF TRANSMISSION BLOCK,17:aETB,aCANCEL,18:aCAN,aEND OF MEDIUM
19:aEOM,aSUBSTITUTE,1a:aSUB,aESCAPE,1b:aESC,aINFORMATION SEPARATOR FOUR,1c:aFILE SEPARATOR,1c:aFS
aINFORMATION SEPARATOR THREE,1d:aGROUP SEPARATOR,1d:aGS,aINFORMATION SEPARATOR TWO
1e:aRECORD SEPARATOR,1e:aRS,aINFORMATION SEPARATOR ONE,1f:aUNIT SEPARATOR,1f:aUS,aSP,7f:aDELETE
7f:aDEL,aPADDING CHARACTER,80:aPAD,aHIGH OCTET PRESET,81:aHOP,aBREAK PERMITTED HERE,82:aBPH
aNO BREAK HERE,83:aNBH,aINDEX,84:aIND,aNEXT LINE,85:aNEL,aSTART OF SELECTED AREA,86:aSSA
aEND OF SELECTED AREA,87:aESA,aCHARACTER TABULATION SET,88:aHORIZONTAL TABULATION SET,88:aHTS
aCHARACTER TABULATION WITH JUSTIFICATION,89:aHORIZONTAL TABULATION WITH JUSTIFICATION,89:aHTJ
aLINE TABULATION SET,8a:aVERTICAL TABULATION SET,8a:aVTS,aPARTIAL LINE FORWARD,8b:cDOWN,8b:aPLD
aPARTIAL LINE BACKWARD,8c:cUP,8c:aPLU,aREVERSE LINE FEED,8d:bINDEX,8d:aRI,aSINGLE SHIFT TWO
8e:aSINGLE-SHIFT-2,8e:aSS2,aSINGLE SHIFT THREE,8f:aSINGLE-SHIFT-3,8f:aSS3,aDEVICE CONTROL STRING
90:aDCS,aPRIVATE USE ONE,91:bUSE-1,91:aPU1,aPRIVATE USE TWO,92:bUSE-2,92:aPU2,aSET TRANSMIT STATE
93:aSTS,aCANCEL CHARACTER,94:aCCH,aMESSAGE WAITING,95:aMW,aSTART OF GUARDED AREA
96:cPROTECTED AREA,96:aSPA,aEND OF GUARDED AREA,97:cPROTECTED AREA,97:aEPA,aSTART OF STRING
98:aSOS,aSINGLE GRAPHIC CHARACTER INTRODUCER,99:aSGC,aSINGLE CHARACTER INTRODUCER,9a:aSCI
aCONTROL SEQUENCE INTRODUCER,9b:aCSI,aSTRING TERMINATOR,9c:aST,aOPERATING SYSTEM COMMAND,9d:aOSC
aPRIVACY MESSAGE,9e:aPM,aAPPLICATION PROGRAM COMMAND,9f:aAPC,aNBSP,ad:aSHY
1a2:aLATIN CAPITAL LETTER GHA,bSMALL LETTER GHA,34f:aCGJ,61c:aALM
709:aSYRIAC SUBLINEAR COLON SKEWED LEFT,cde:aKANNADA LETTER LLLA,e9d:aLAO LETTER FO FON,e9f:dFAY
ea3:cRO,ea5:cLO,fd0:aTIBETAN MARK BKA- SHOG GI MGO RGYAN,11ec:aHANGUL JONGSEONG YESIEUNG-KIYEOK
cYESIEUNG-SSANGKIYEOK,cSSANGYESIEUNG,cYESIEUNG-KHIEUKH,180b:aFVS1,aFVS2,aFVS3,aMVS,aFVS4
200b:aZWSP,aZWNJ,aZWJ,aLRM,aRLM,202a:aLRE,aRLE,aPDF,aLRO,aRLO,aNNBSP,205f:aMMSP,aWJ,2066:aLRI,aRLI
aFSI,aPDI,2118:aWEIERSTRASS ELLIPTIC FUNCTION,2448:aMICR ON US SYMBOL,bDASH SYMBOL
2b7a:aLEFTWARDS TRIANGLE-HEADED ARROW WITH DOUBLE VERTICAL STROKE
2b7c:aRIGHTWARDS TRIANGLE-HEADED ARROW WITH DOUBLE VERTICAL STROKE
a015:aYI SYLLABLE ITERATION MARK,aa6e:aMYANMAR LETTER KHAMTI LLA
fe18:aPRESENTATION FORM FOR VERTICAL RIGHT WHITE LENTICULAR BRACKET,feff:aBYTE ORDER MARK
feff:aBOM,feff:aZWNBSP,122d4:aCUNEIFORM SIGN NU11 TENU,dOVER NU11 BUR OVER BUR
16e56:aMEDEFAIDRIN CAPITAL LETTER H,dNG,16e76:bSMALL LETTER H,dNG,1b001:aHENTAIGANA LETTER E-1
1d0c5:aBYZANTINE MUSICAL SYMBOL FTHORA SKLIRON CHROMA VASIS"

end LogViewer.Text.CharacterName
