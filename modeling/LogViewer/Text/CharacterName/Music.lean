/-!
# Names of characters: notations

The names of the characters from U+1CF00 to U+1EFFF: musical, mathematical and other notations.
The notation is that of `LogViewer.Text.NameTable`.
-/

namespace LogViewer.Text.CharacterName

/-- Names from U+1CF00 to U+1EFFF. -/
def music : String :=
"1cf00:aZNAMENNY COMBINING MARK GORAZDO NIZKO S KRYZHEM ON LEFT,dNIZKO S KRYZHEM ON LEFT
dTSATA ON LEFT,dGORAZDO NIZKO ON LEFT,dNIZKO ON LEFT,dSREDNE ON LEFT,dMALO POVYSHE ON LEFT
dPOVYSHE ON LEFT,dVYSOKO ON LEFT,dMALO POVYSHE S KHOKHLOM ON LEFT,dPOVYSHE S KHOKHLOM ON LEFT
dVYSOKO S KHOKHLOM ON LEFT,dGORAZDO NIZKO S KRYZHEM ON RIGHT,dNIZKO S KRYZHEM ON RIGHT
dTSATA ON RIGHT,dGORAZDO NIZKO ON RIGHT,dNIZKO ON RIGHT,dSREDNE ON RIGHT,dMALO POVYSHE ON RIGHT
dPOVYSHE ON RIGHT,dVYSOKO ON RIGHT,dMALO POVYSHE S KHOKHLOM ON RIGHT,dPOVYSHE S KHOKHLOM ON RIGHT
dVYSOKO S KHOKHLOM ON RIGHT,dTSATA S KRYZHEM,dMALO POVYSHE S KRYZHEM,dSTRANNO MALO POVYSHE
dPOVYSHE S KRYZHEM,eSTRANNO,dVYSOKO S KRYZHEM,dMALO POVYSHE STRANNO,dGORAZDO VYSOKO,dZELO,dON
dRAVNO,dTIKHAYA,dBORZAYA,dUDARKA,dPODVERTKA,dLOMKA,dKUPNAYA,dKACHKA,dZEVOK,dSKOBA,dRAZSEKA
dKRYZH ON LEFT,1cf30:cTONAL RANGE MARK MRACHNO,fSVETLO,fTRESVETLO,cMARK ZADERZHKA
dDEMESTVENNY ZADERZHKA,dOTSECHKA,dPODCHASHIE,eWITH VERTICAL STROKE,dCHASHKA,ePOLNAYA,dOBLACHKO
dSOROCHYA NOZHKA,dTOCHKA,dDVOETOCHIE,cATTACHING VERTICAL OMET,cMARK CURVED OMET,dKRYZH
cLOWER TONAL RANGE INDICATOR,bPRIZNAK MODIFIER LEVEL-2,dLEVEL-3,dDIRECTION FLIP,dKRYZH,dROG
1cf50:bNEUME KRYUK,dTIKHY,cPARAKLIT,cDVA V CHELNU,cKLYUCH,cZANOZHEK,cSTOPITSA,dS OCHKOM,cPEREVODKA
dNEPOSTOYANNAYA,cSTOPITSA WITH SOROCHYA NOZHKA,cCHELYUSTKA,cPALKA,cZAPYATAYA,cGOLUBCHIK BORZY
dTIKHY,dMRACHNY,dSVETLY,dTRESVETLY,cVRAKHIYA PROSTAYA,dMRACHNAYA,dSVETLAYA,dTRESVETLAYA
dKLYUCHEVAYA PROSTAYA,eMRACHNAYA,eSVETLAYA,eTRESVETLAYA,cDOUBLE ZAPYATAYA,cREVERSED CHELYUSTKA
cDERBITSA,cKHAMILO,cCHASHKA,cPODCHASHIE,cSKAMEYTSA MRACHNAYA,dSVETLAYA,dTRESVETLAYA,dTIKHAYA
cDEMESTVENNY KLYUCH,cSKAMEYTSA KLYUCHEVAYA SVETLAYA,dKLYUCHENEPOSTOYANNAYA,dKLYUCHEVAYA TIKHAYA
dDVOECHELNAYA PROSTAYA,eSVETLAYA,eNEPOSTOYANNAYA,eKLYUCHEVAYA,cSLOZHITIE,dS ZAPYATOY,dZAKRYTOE
dS KRYZHEM,cKRYZH,cROG,cFITA,cKOBYLA,cZMEYTSA,cSTATYA,dS ZAPYATOY,eKRYZHEM,eZAPYATOY I KRYZHEM
eKRYZHEM I ZAPYATOY,dZAKRYTAYA,eS ZAPYATOY,dS ROGOM,eDVUMYA ZAPYATYMI,eZAPYATOY I PODCHASHIEM
cPOLKULIZMY,cSTATYA NEPOSTOYANNAYA,cSTRELA PROSTAYA,dMRACHNOTIKHAYA,dKRYZHEVAYA,dPOLUPOVODNAYA
dPOVODNAYA,dNEPOSTOYANNAYA,dKLYUCHEPOVODNAYA,dKLYUCHENEPOSTOYANNAYA,dTIKHAYA PUTNAYA,dDVOECHELNAYA
dDVOECHELNOKRYZHEVAYA,dDVOECHELNOPOVODNAYA,dDVOECHELNAYA KLYUCHEVAYA
dDVOECHELNOPOVODNAYA KLYUCHEVAYA,dGROMNAYA WITH SINGLE ZAPYATAYA
dGROMOPOVODNAYA WITH SINGLE ZAPYATAYA,dGROMNAYA,dGROMOPOVODNAYA,eWITH DOUBLE ZAPYATAYA
dGROMOKRYZHEVAYA,ePOVODNAYA,cMECHIK,dPOVODNY,dKLYUCHEVOY,dKLYUCHEPOVODNY,dKLYUCHENEPOSTOYANNY
cSTRELA TRYASOGLASNAYA,dTRYASOPOVODNAYA,dTRYASOSTRELNAYA,cOSOKA,dSVETLAYA,dTRESVETLAYA
dKRYUKOVAYA SVETLAYA,dKLYUCHEVAYA SVETLAYA,eNEPOSTOYANNAYA,cSTRELA KRYUKOVAYA,ePOVODNAYA
eGROMNAYA WITH SINGLE ZAPYATAYA,eGROMOPOVODNAYA WITH SINGLE ZAPYATAYA,eGROMNAYA,eGROMOPOVODNAYA
fWITH DOUBLE ZAPYATAYA,eGROMOKRYZHEVAYA,fPOVODNAYA,eTRYASKA,cKUFISMA,cOBLAKO,cDUDA,cNEMKA,cPAUK
1d000:aBYZANTINE MUSICAL SYMBOL PSILI,dDASEIA,dPERISPOMENI,dOXEIA EKFONITIKON,eDIPLI
dVAREIA EKFONITIKON,eDIPLI,dKATHISTI,dSYRMATIKI,dPARAKLITIKI,dYPOKRISIS,eDIPLI,dKREMASTI
dAPESO EKFONITIKON,dEXO EKFONITIKON,dTELEIA,dKENTIMATA,dAPOSTROFOS,eDIPLI,dSYNEVMA,dTHITA
dOLIGON ARCHAION,dGORGON ARCHAION,dPSILON,dCHAMILON,dVATHY,dISON ARCHAION,dKENTIMA ARCHAION
dKENTIMATA ARCHAION,dSAXIMATA,dPARICHON,dSTAVROS APODEXIA,dOXEIAI ARCHAION,dVAREIAI ARCHAION
dAPODERMA ARCHAION,dAPOTHEMA,dKLASMA,dREVMA,dPIASMA ARCHAION,dTINAGMA,dANATRICHISMA,dSEISMA
dSYNAGMA ARCHAION,eMETA STAVROU,dOYRANISMA ARCHAION,dTHEMA,dLEMOI,dDYO,dTRIA,dTESSERA,dKRATIMATA
dAPESO EXO NEO,dFTHORA ARCHAION,dIMIFTHORA,dTROMIKON ARCHAION,dKATAVA TROMIKON,dPELASTON
dPSIFISTON,dKONTEVMA,dCHOREVMA ARCHAION,dRAPISMA,dPARAKALESMA ARCHAION,dPARAKLITIKI ARCHAION
dICHADIN,dNANA,dPETASMA,dKONTEVMA ALLO,dTROMIKON ALLO,dSTRAGGISMATA,dGRONTHISMATA,dISON NEO
dOLIGON NEO,dOXEIA NEO,dPETASTI,dKOUFISMA,dPETASTOKOUFISMA,dKRATIMOKOUFISMA,dPELASTON NEO
dKENTIMATA NEO ANO,dKENTIMA NEO ANO,dYPSILI,dAPOSTROFOS NEO,dAPOSTROFOI SYNDESMOS NEO,dYPORROI
dKRATIMOYPORROON,dELAFRON,dCHAMILI,dMIKRON ISON,dVAREIA NEO,dPIASMA NEO,dPSIFISTON NEO,dOMALON
dANTIKENOMA,dLYGISMA,dPARAKLITIKI NEO,dPARAKALESMA NEO,dETERON PARAKALESMA,dKYLISMA
dANTIKENOKYLISMA,dTROMIKON NEO,dEKSTREPTON,dSYNAGMA NEO,dSYRMA,dCHOREVMA NEO,dEPEGERMA,dSEISMA NEO
dXIRON KLASMA,dTROMIKOPSIFISTON,dPSIFISTOLYGISMA,dTROMIKOLYGISMA,dTROMIKOPARAKALESMA
dPSIFISTOPARAKALESMA,dTROMIKOSYNAGMA,dPSIFISTOSYNAGMA,dGORGOSYNTHETON,dARGOSYNTHETON
dETERON ARGOSYNTHETON,dOYRANISMA NEO,dTHEMATISMOS ESO,eEXO,dTHEMA APLOUN,dTHES KAI APOTHES
dKATAVASMA,dENDOFONON,dYFEN KATO,eANO,dSTAVROS,dKLASMA ANO,dDIPLI ARCHAION,dKRATIMA ARCHAION,eALLO
eNEO,dAPODERMA NEO,dAPLI,dDIPLI,dTRIPLI,dTETRAPLI,dKORONIS,dLEIMMA ENOS CHRONOU,eDYO CHRONON
eTRION CHRONON,eTESSARON CHRONON,eIMISEOS CHRONOU,dGORGON NEO ANO,ePARESTIGMENON ARISTERA,fDEXIA
dDIGORGON,ePARESTIGMENON ARISTERA KATO,gANO,fDEXIA,dTRIGORGON,dARGON,dIMIDIARGON,dDIARGON
dAGOGI POLI ARGI,eARGOTERI,eARGI,eMETRIA,eMESI,eGORGI,eGORGOTERI,ePOLI GORGI
dMARTYRIA PROTOS ICHOS,eALLI PROTOS ICHOS,eDEYTEROS ICHOS,eALLI DEYTEROS ICHOS,eTRITOS ICHOS
eTRIFONIAS,eTETARTOS ICHOS,fLEGETOS ICHOS,eLEGETOS ICHOS,ePLAGIOS ICHOS,dISAKIA TELOUS ICHIMATOS
dAPOSTROFOI TELOUS ICHIMATOS,dFANEROSIS TETRAFONIAS,eMONOFONIAS,eDIFONIAS,dMARTYRIA VARYS ICHOS
ePROTOVARYS ICHOS,ePLAGIOS TETARTOS ICHOS,dGORTHMIKON N APLOUN,fDIPLOUN,dENARXIS KAI FTHORA VOU
dIMIFONON,dIMIFTHORON,dFTHORA ARCHAION DEYTEROU ICHOU,eDIATONIKI PA,fNANA,eNAOS ICHOS
eDIATONIKI DI,eSKLIRON DIATONON DI,eDIATONIKI KE,fZO,fNI KATO,gANO,eMALAKON CHROMA DIFONIAS
gMONOFONIAS,dFHTORA SKLIRON CHROMA VASIS,dFTHORA SKLIRON CHROMA SYNAFI,eNENANO,dCHROA ZYGOS
eKLITON,eSPATHI,dFTHORA I YFESIS TETARTIMORION,eENARMONIOS ANTIFONIA,dYFESIS TRITIMORION
dDIESIS TRITIMORION,eTETARTIMORION,eAPLI DYO DODEKATA,eMONOGRAMMOS TESSERA DODEKATA
eDIGRAMMOS EX DODEKATA,eTRIGRAMMOS OKTO DODEKATA,dYFESIS APLI DYO DODEKATA
eMONOGRAMMOS TESSERA DODEKATA,eDIGRAMMOS EX DODEKATA,eTRIGRAMMOS OKTO DODEKATA,dGENIKI DIESIS
eYFESIS,dDIASTOLI APLI MIKRI,fMEGALI,eDIPLI,eTHESEOS,dSIMANSIS THESEOS,fDISIMOU,fTRISIMOU
fTETRASIMOU,eARSEOS,fDISIMOU,fTRISIMOU,fTETRASIMOU,dDIGRAMMA GG,dDIFTOGGOS OU,dSTIGMA,dARKTIKO PA
eVOU,eGA,eDI,eKE,eZO,eNI,dKENTIMATA NEO MESO,dKENTIMA NEO MESO,dKENTIMATA NEO KATO
dKENTIMA NEO KATO,dKLASMA KATO,dGORGON NEO KATO,1d100:aMUSICAL SYMBOL SINGLE BARLINE
cDOUBLE BARLINE,cFINAL BARLINE,cREVERSE FINAL BARLINE,cDASHED BARLINE,cSHORT BARLINE
cLEFT REPEAT SIGN,cRIGHT REPEAT SIGN,cREPEAT DOTS,cDAL SEGNO,cDA CAPO,cSEGNO,cCODA
cREPEATED FIGURE-1,dFIGURE-2,dFIGURE-3,cFERMATA,dBELOW,cBREATH MARK,cCAESURA,cBRACE,cBRACKET
cONE-LINE STAFF,cTWO-LINE STAFF,cTHREE-LINE STAFF,cFOUR-LINE STAFF,cFIVE-LINE STAFF
cSIX-LINE STAFF,cSIX-STRING FRETBOARD,cFOUR-STRING FRETBOARD,cG CLEF,eOTTAVA ALTA,fBASSA,cC CLEF
cF CLEF,eOTTAVA ALTA,fBASSA,cDRUM CLEF-1,dCLEF-2,1d129:cMULTIPLE MEASURE REST,cDOUBLE SHARP,dFLAT
cFLAT UP,dDOWN,cNATURAL UP,dDOWN,cSHARP UP,dDOWN,cQUARTER TONE SHARP,eFLAT,cCOMMON TIME,cCUT TIME
cOTTAVA ALTA,dBASSA,cQUINDICESIMA ALTA,dBASSA,cMULTI REST,cWHOLE REST,cHALF REST,cQUARTER REST
cEIGHTH REST,cSIXTEENTH REST,cTHIRTY-SECOND REST,cSIXTY-FOURTH REST
cONE HUNDRED TWENTY-EIGHTH REST,cX NOTEHEAD,cPLUS NOTEHEAD,cCIRCLE X NOTEHEAD
cSQUARE NOTEHEAD WHITE,eBLACK,cTRIANGLE NOTEHEAD UP WHITE,fBLACK,eLEFT WHITE,fBLACK,eRIGHT WHITE
fBLACK,eDOWN WHITE,fBLACK,eUP RIGHT WHITE,gBLACK,cMOON NOTEHEAD WHITE,eBLACK
cTRIANGLE-ROUND NOTEHEAD DOWN WHITE,fBLACK,cPARENTHESIS NOTEHEAD,cVOID NOTEHEAD,cNOTEHEAD BLACK
cNULL NOTEHEAD,cCLUSTER NOTEHEAD WHITE,eBLACK,cBREVE,cWHOLE NOTE,cHALF NOTE,cQUARTER NOTE
cEIGHTH NOTE,cSIXTEENTH NOTE,cTHIRTY-SECOND NOTE,cSIXTY-FOURTH NOTE
cONE HUNDRED TWENTY-EIGHTH NOTE,cCOMBINING STEM,dSPRECHGESANG STEM,dTREMOLO-1,dTREMOLO-2
dTREMOLO-3,cFINGERED TREMOLO-1,dTREMOLO-2,dTREMOLO-3,cCOMBINING AUGMENTATION DOT,dFLAG-1,dFLAG-2
dFLAG-3,dFLAG-4,dFLAG-5,cBEGIN BEAM,cEND BEAM,cBEGIN TIE,cEND TIE,cBEGIN SLUR,cEND SLUR
cBEGIN PHRASE,cEND PHRASE,cCOMBINING ACCENT,dSTACCATO,dTENUTO,dSTACCATISSIMO,dMARCATO
dMARCATO-STACCATO,dACCENT-STACCATO,dLOURE,cARPEGGIATO UP,dDOWN,cCOMBINING DOIT,dRIP,dFLIP,dSMEAR
dBEND,dDOUBLE TONGUE,dTRIPLE TONGUE,cRINFORZANDO,cSUBITO,cZ,cPIANO,cMEZZO,cFORTE,cCRESCENDO
cDECRESCENDO,cGRACE NOTE SLASH,eNO SLASH,cTR,cTURN,cINVERTED TURN,cTURN SLASH,dUP
cORNAMENT STROKE-1,dSTROKE-2,dSTROKE-3,dSTROKE-4,dSTROKE-5,dSTROKE-6,dSTROKE-7,dSTROKE-8,dSTROKE-9
dSTROKE-10,dSTROKE-11,cHAUPTSTIMME,cNEBENSTIMME,cEND OF STIMME,cDEGREE SLASH,cCOMBINING DOWN BOW
dUP BOW,dHARMONIC,dSNAP PIZZICATO,cPEDAL MARK,dUP MARK,cHALF PEDAL MARK,cGLISSANDO UP,dDOWN
cWITH FINGERNAILS,cDAMP,dALL,cMAXIMA,cLONGA,cBREVIS,cSEMIBREVIS WHITE,dBLACK,cMINIMA,dBLACK
cSEMIMINIMA WHITE,dBLACK,cFUSA WHITE,dBLACK,cLONGA PERFECTA REST,dIMPERFECTA REST,cBREVIS REST
cSEMIBREVIS REST,cMINIMA REST,cSEMIMINIMA REST,cTEMPUS PERFECTUM CUM PROLATIONE PERFECTA
gIMPERFECTA,gPERFECTA DIMINUTION-1,dIMPERFECTUM CUM PROLATIONE PERFECTA,gIMPERFECTA,hDIMINUTION-1
hDIMINUTION-2,hDIMINUTION-3,cCROIX,cGREGORIAN C CLEF,dF CLEF,cSQUARE B,cVIRGA,cPODATUS,cCLIVIS
cSCANDICUS,cCLIMACUS,cTORCULUS,cPORRECTUS,dFLEXUS,cSCANDICUS FLEXUS,cTORCULUS RESUPINUS
cPES SUBPUNCTIS,cKIEVAN C CLEF,dEND OF PIECE,dFINAL NOTE,dRECITATIVE MARK,dWHOLE NOTE,dHALF NOTE
dQUARTER NOTE STEM DOWN,gUP,dEIGHTH NOTE STEM DOWN,gUP,dFLAT SIGN,cSORI,cKORON
1d200:aGREEK VOCAL NOTATION SYMBOL-1,dSYMBOL-2,dSYMBOL-3,dSYMBOL-4,dSYMBOL-5,dSYMBOL-6,dSYMBOL-7
dSYMBOL-8,dSYMBOL-9,dSYMBOL-10,dSYMBOL-11,dSYMBOL-12,dSYMBOL-13,dSYMBOL-14,dSYMBOL-15,dSYMBOL-16
dSYMBOL-17,dSYMBOL-18,dSYMBOL-19,dSYMBOL-20,dSYMBOL-21,dSYMBOL-22,dSYMBOL-23,dSYMBOL-24,dSYMBOL-50
dSYMBOL-51,dSYMBOL-52,dSYMBOL-53,dSYMBOL-54,bINSTRUMENTAL NOTATION SYMBOL-1,dSYMBOL-2,dSYMBOL-4
dSYMBOL-5,dSYMBOL-7,dSYMBOL-8,dSYMBOL-11,dSYMBOL-12,dSYMBOL-13,dSYMBOL-14,dSYMBOL-17,dSYMBOL-18
dSYMBOL-19,dSYMBOL-23,dSYMBOL-24,dSYMBOL-25,dSYMBOL-26,dSYMBOL-27,dSYMBOL-29,dSYMBOL-30,dSYMBOL-32
dSYMBOL-36,dSYMBOL-37,dSYMBOL-38,dSYMBOL-39,dSYMBOL-40,dSYMBOL-42,dSYMBOL-43,dSYMBOL-45,dSYMBOL-47
dSYMBOL-48,dSYMBOL-49,dSYMBOL-50,dSYMBOL-51,dSYMBOL-52,dSYMBOL-53,dSYMBOL-54
aCOMBINING GREEK MUSICAL TRISEME,dTETRASEME,dPENTASEME,aGREEK MUSICAL LEIMMA
1d2e0:aMAYAN NUMERAL ZERO,cONE,cTWO,cTHREE,cFOUR,cFIVE,cSIX,cSEVEN,cEIGHT,cNINE,cTEN,cELEVEN
cTWELVE,cTHIRTEEN,cFOURTEEN,cFIFTEEN,cSIXTEEN,cSEVENTEEN,cEIGHTEEN,cNINETEEN
1d300:aMONOGRAM FOR EARTH,aDIGRAM FOR HEAVENLY EARTH,cHUMAN EARTH,cEARTHLY HEAVEN,dHUMAN,cEARTH
aTETRAGRAM FOR CENTRE,cFULL CIRCLE,cMIRED,cBARRIER,cKEEPING SMALL,cCONTRARIETY,cASCENT,cOPPOSITION
cBRANCHING OUT,cDEFECTIVENESS OR DISTORTION,cDIVERGENCE,cYOUTHFULNESS,cINCREASE,cPENETRATION
cREACH,cCONTACT,cHOLDING BACK,cWAITING,cFOLLOWING,cADVANCE,cRELEASE,cRESISTANCE,cEASE,cJOY
cCONTENTION,cENDEAVOUR,cDUTIES,cCHANGE,cDECISIVENESS,cBOLD RESOLUTION,cPACKING,cLEGION,cCLOSENESS
cKINSHIP,cGATHERING,cSTRENGTH,cPURITY,cFULLNESS,cRESIDENCE,cLAW OR MODEL,cRESPONSE,cGOING TO MEET
cENCOUNTERS,cSTOVE,cGREATNESS,cENLARGEMENT,cPATTERN,cRITUAL,cFLIGHT,cVASTNESS OR WASTING
cCONSTANCY,cMEASURE,cETERNITY,cUNITY,cDIMINISHMENT,cCLOSED MOUTH,cGUARDEDNESS,cGATHERING IN
cMASSING,cACCUMULATION,cEMBELLISHMENT,cDOUBT,cWATCH,cSINKING,cINNER,cDEPARTURE,cDARKENING,cDIMMING
cEXHAUSTION,cSEVERANCE,cSTOPPAGE,cHARDNESS,cCOMPLETION,cCLOSURE,cFAILURE,cAGGRAVATION,cCOMPLIANCE
cON THE VERGE,cDIFFICULTIES,cLABOURING,cFOSTERING,1d360:aCOUNTING ROD UNIT DIGIT ONE,eTWO,eTHREE
eFOUR,eFIVE,eSIX,eSEVEN,eEIGHT,eNINE,cTENS DIGIT ONE,eTWO,eTHREE,eFOUR,eFIVE,eSIX,eSEVEN,eEIGHT
eNINE,aIDEOGRAPHIC TALLY MARK ONE,dTWO,dTHREE,dFOUR,dFIVE,aTALLY MARK ONE,cFIVE
1d400:aMATHEMATICAL BOLD CAPITAL A,dB,dC,dD,dE,dF,dG,dH,dI,dJ,dK,dL,dM,dN,dO,dP,dQ,dR,dS,dT,dU,dV
dW,dX,dY,dZ,cSMALL A,dB,dC,dD,dE,dF,dG,dH,dI,dJ,dK,dL,dM,dN,dO,dP,dQ,dR,dS,dT,dU,dV,dW,dX,dY,dZ
bITALIC CAPITAL A,dB,dC,dD,dE,dF,dG,dH,dI,dJ,dK,dL,dM,dN,dO,dP,dQ,dR,dS,dT,dU,dV,dW,dX,dY,dZ
cSMALL A,dB,dC,dD,dE,dF,dG,1d456:dI,dJ,dK,dL,dM,dN,dO,dP,dQ,dR,dS,dT,dU,dV,dW,dX,dY,dZ
bBOLD ITALIC CAPITAL A,eB,eC,eD,eE,eF,eG,eH,eI,eJ,eK,eL,eM,eN,eO,eP,eQ,eR,eS,eT,eU,eV,eW,eX,eY,eZ
dSMALL A,eB,eC,eD,eE,eF,eG,eH,eI,eJ,eK,eL,eM,eN,eO,eP,eQ,eR,eS,eT,eU,eV,eW,eX,eY,eZ
bSCRIPT CAPITAL A,1d49e:dC,dD,1d4a2:dG,1d4a5:dJ,dK,1d4a9:dN,dO,dP,dQ,1d4ae:dS,dT,dU,dV,dW,dX,dY,dZ
cSMALL A,dB,dC,dD,1d4bb:dF,1d4bd:dH,dI,dJ,dK,dL,dM,dN,1d4c5:dP,dQ,dR,dS,dT,dU,dV,dW,dX,dY,dZ
bBOLD SCRIPT CAPITAL A,eB,eC,eD,eE,eF,eG,eH,eI,eJ,eK,eL,eM,eN,eO,eP,eQ,eR,eS,eT,eU,eV,eW,eX,eY,eZ
dSMALL A,eB,eC,eD,eE,eF,eG,eH,eI,eJ,eK,eL,eM,eN,eO,eP,eQ,eR,eS,eT,eU,eV,eW,eX,eY,eZ
bFRAKTUR CAPITAL A,dB,1d507:dD,dE,dF,dG,1d50d:dJ,dK,dL,dM,dN,dO,dP,dQ,1d516:dS,dT,dU,dV,dW,dX,dY
1d51e:cSMALL A,dB,dC,dD,dE,dF,dG,dH,dI,dJ,dK,dL,dM,dN,dO,dP,dQ,dR,dS,dT,dU,dV,dW,dX,dY,dZ
bDOUBLE-STRUCK CAPITAL A,dB,1d53b:dD,dE,dF,dG,1d540:dI,dJ,dK,dL,dM,1d546:dO,1d54a:dS,dT,dU,dV,dW
dX,dY,1d552:cSMALL A,dB,dC,dD,dE,dF,dG,dH,dI,dJ,dK,dL,dM,dN,dO,dP,dQ,dR,dS,dT,dU,dV,dW,dX,dY,dZ
bBOLD FRAKTUR CAPITAL A,eB,eC,eD,eE,eF,eG,eH,eI,eJ,eK,eL,eM,eN,eO,eP,eQ,eR,eS,eT,eU,eV,eW,eX,eY,eZ
dSMALL A,eB,eC,eD,eE,eF,eG,eH,eI,eJ,eK,eL,eM,eN,eO,eP,eQ,eR,eS,eT,eU,eV,eW,eX,eY,eZ
bSANS-SERIF CAPITAL A,dB,dC,dD,dE,dF,dG,dH,dI,dJ,dK,dL,dM,dN,dO,dP,dQ,dR,dS,dT,dU,dV,dW,dX,dY,dZ
cSMALL A,dB,dC,dD,dE,dF,dG,dH,dI,dJ,dK,dL,dM,dN,dO,dP,dQ,dR,dS,dT,dU,dV,dW,dX,dY,dZ
cBOLD CAPITAL A,eB,eC,eD,eE,eF,eG,eH,eI,eJ,eK,eL,eM,eN,eO,eP,eQ,eR,eS,eT,eU,eV,eW,eX,eY,eZ
dSMALL A,eB,eC,eD,eE,eF,eG,eH,eI,eJ,eK,eL,eM,eN,eO,eP,eQ,eR,eS,eT,eU,eV,eW,eX,eY,eZ
cITALIC CAPITAL A,eB,eC,eD,eE,eF,eG,eH,eI,eJ,eK,eL,eM,eN,eO,eP,eQ,eR,eS,eT,eU,eV,eW,eX,eY,eZ
dSMALL A,eB,eC,eD,eE,eF,eG,eH,eI,eJ,eK,eL,eM,eN,eO,eP,eQ,eR,eS,eT,eU,eV,eW,eX,eY,eZ
cBOLD ITALIC CAPITAL A,fB,fC,fD,fE,fF,fG,fH,fI,fJ,fK,fL,fM,fN,fO,fP,fQ,fR,fS,fT,fU,fV,fW,fX,fY,fZ
eSMALL A,fB,fC,fD,fE,fF,fG,fH,fI,fJ,fK,fL,fM,fN,fO,fP,fQ,fR,fS,fT,fU,fV,fW,fX,fY,fZ
bMONOSPACE CAPITAL A,dB,dC,dD,dE,dF,dG,dH,dI,dJ,dK,dL,dM,dN,dO,dP,dQ,dR,dS,dT,dU,dV,dW,dX,dY,dZ
cSMALL A,dB,dC,dD,dE,dF,dG,dH,dI,dJ,dK,dL,dM,dN,dO,dP,dQ,dR,dS,dT,dU,dV,dW,dX,dY,dZ
bITALIC SMALL DOTLESS I,eJ,1d6a8:bBOLD CAPITAL ALPHA,dBETA,dGAMMA,dDELTA,dEPSILON,dZETA,dETA
dTHETA,dIOTA,dKAPPA,dLAMDA,dMU,dNU,dXI,dOMICRON,dPI,dRHO,dTHETA SYMBOL,dSIGMA,dTAU,dUPSILON,dPHI
dCHI,dPSI,dOMEGA,cNABLA,cSMALL ALPHA,dBETA,dGAMMA,dDELTA,dEPSILON,dZETA,dETA,dTHETA,dIOTA,dKAPPA
dLAMDA,dMU,dNU,dXI,dOMICRON,dPI,dRHO,dFINAL SIGMA,dSIGMA,dTAU,dUPSILON,dPHI,dCHI,dPSI,dOMEGA
cPARTIAL DIFFERENTIAL,cEPSILON SYMBOL,cTHETA SYMBOL,cKAPPA SYMBOL,cPHI SYMBOL,cRHO SYMBOL
cPI SYMBOL,bITALIC CAPITAL ALPHA,dBETA,dGAMMA,dDELTA,dEPSILON,dZETA,dETA,dTHETA,dIOTA,dKAPPA
dLAMDA,dMU,dNU,dXI,dOMICRON,dPI,dRHO,dTHETA SYMBOL,dSIGMA,dTAU,dUPSILON,dPHI,dCHI,dPSI,dOMEGA
cNABLA,cSMALL ALPHA,dBETA,dGAMMA,dDELTA,dEPSILON,dZETA,dETA,dTHETA,dIOTA,dKAPPA,dLAMDA,dMU,dNU,dXI
dOMICRON,dPI,dRHO,dFINAL SIGMA,dSIGMA,dTAU,dUPSILON,dPHI,dCHI,dPSI,dOMEGA,cPARTIAL DIFFERENTIAL
cEPSILON SYMBOL,cTHETA SYMBOL,cKAPPA SYMBOL,cPHI SYMBOL,cRHO SYMBOL,cPI SYMBOL
bBOLD ITALIC CAPITAL ALPHA,eBETA,eGAMMA,eDELTA,eEPSILON,eZETA,eETA,eTHETA,eIOTA,eKAPPA,eLAMDA,eMU
eNU,eXI,eOMICRON,ePI,eRHO,eTHETA SYMBOL,eSIGMA,eTAU,eUPSILON,ePHI,eCHI,ePSI,eOMEGA,dNABLA
dSMALL ALPHA,eBETA,eGAMMA,eDELTA,eEPSILON,eZETA,eETA,eTHETA,eIOTA,eKAPPA,eLAMDA,eMU,eNU,eXI
eOMICRON,ePI,eRHO,eFINAL SIGMA,eSIGMA,eTAU,eUPSILON,ePHI,eCHI,ePSI,eOMEGA,dPARTIAL DIFFERENTIAL
dEPSILON SYMBOL,dTHETA SYMBOL,dKAPPA SYMBOL,dPHI SYMBOL,dRHO SYMBOL,dPI SYMBOL
bSANS-SERIF BOLD CAPITAL ALPHA,eBETA,eGAMMA,eDELTA,eEPSILON,eZETA,eETA,eTHETA,eIOTA,eKAPPA,eLAMDA
eMU,eNU,eXI,eOMICRON,ePI,eRHO,eTHETA SYMBOL,eSIGMA,eTAU,eUPSILON,ePHI,eCHI,ePSI,eOMEGA,dNABLA
dSMALL ALPHA,eBETA,eGAMMA,eDELTA,eEPSILON,eZETA,eETA,eTHETA,eIOTA,eKAPPA,eLAMDA,eMU,eNU,eXI
eOMICRON,ePI,eRHO,eFINAL SIGMA,eSIGMA,eTAU,eUPSILON,ePHI,eCHI,ePSI,eOMEGA,dPARTIAL DIFFERENTIAL
dEPSILON SYMBOL,dTHETA SYMBOL,dKAPPA SYMBOL,dPHI SYMBOL,dRHO SYMBOL,dPI SYMBOL
dITALIC CAPITAL ALPHA,fBETA,fGAMMA,fDELTA,fEPSILON,fZETA,fETA,fTHETA,fIOTA,fKAPPA,fLAMDA,fMU,fNU
fXI,fOMICRON,fPI,fRHO,fTHETA SYMBOL,fSIGMA,fTAU,fUPSILON,fPHI,fCHI,fPSI,fOMEGA,eNABLA,eSMALL ALPHA
fBETA,fGAMMA,fDELTA,fEPSILON,fZETA,fETA,fTHETA,fIOTA,fKAPPA,fLAMDA,fMU,fNU,fXI,fOMICRON,fPI,fRHO
fFINAL SIGMA,fSIGMA,fTAU,fUPSILON,fPHI,fCHI,fPSI,fOMEGA,ePARTIAL DIFFERENTIAL,eEPSILON SYMBOL
eTHETA SYMBOL,eKAPPA SYMBOL,ePHI SYMBOL,eRHO SYMBOL,ePI SYMBOL,bBOLD CAPITAL DIGAMMA
cSMALL DIGAMMA,1d7ce:cDIGIT ZERO,dONE,dTWO,dTHREE,dFOUR,dFIVE,dSIX,dSEVEN,dEIGHT,dNINE
bDOUBLE-STRUCK DIGIT ZERO,dONE,dTWO,dTHREE,dFOUR,dFIVE,dSIX,dSEVEN,dEIGHT,dNINE
bSANS-SERIF DIGIT ZERO,dONE,dTWO,dTHREE,dFOUR,dFIVE,dSIX,dSEVEN,dEIGHT,dNINE,cBOLD DIGIT ZERO,eONE
eTWO,eTHREE,eFOUR,eFIVE,eSIX,eSEVEN,eEIGHT,eNINE,bMONOSPACE DIGIT ZERO,dONE,dTWO,dTHREE,dFOUR
dFIVE,dSIX,dSEVEN,dEIGHT,dNINE,aSIGNWRITING HAND-FIST INDEX,bHAND-CIRCLE INDEX,bHAND-CUP INDEX
bHAND-OVAL INDEX,bHAND-HINGE INDEX,bHAND-ANGLE INDEX,bHAND-FIST INDEX BENT,bHAND-CIRCLE INDEX BENT
bHAND-FIST THUMB UNDER INDEX BENT,cINDEX RAISED KNUCKLE,dCUPPED,dHINGED,eLOW
bHAND-CIRCLE INDEX HINGE,bHAND-FIST INDEX MIDDLE,bHAND-CIRCLE INDEX MIDDLE
bHAND-FIST INDEX MIDDLE BENT,eRAISED KNUCKLES,eHINGED,dUP MIDDLE HINGED,dHINGED MIDDLE UP
dMIDDLE CONJOINED,fINDEX BENT,fMIDDLE BENT,fCUPPED,fHINGED,eCROSSED
bHAND-CIRCLE INDEX MIDDLE CROSSED,bHAND-FIST MIDDLE BENT OVER INDEX,cINDEX BENT OVER MIDDLE
dMIDDLE THUMB,bHAND-CIRCLE INDEX MIDDLE THUMB,bHAND-FIST INDEX MIDDLE STRAIGHT THUMB BENT
eBENT THUMB STRAIGHT,eTHUMB BENT,eHINGED SPREAD THUMB SIDE,dUP MIDDLE HINGED THUMB SIDE,hCONJOINED
dHINGED MIDDLE UP THUMB SIDE,dMIDDLE UP SPREAD THUMB FORWARD,eTHUMB CUPPED,fCIRCLED,fHOOKED
fHINGED,cTHUMB BETWEEN INDEX MIDDLE STRAIGHT,cINDEX MIDDLE CONJOINED THUMB SIDE,hCONJOINED,hBENT
cMIDDLE THUMB HOOKED INDEX UP,cINDEX THUMB HOOKED MIDDLE UP,dMIDDLE CONJOINED HINGED THUMB SIDE
eCROSSED THUMB SIDE,eCONJOINED THUMB FORWARD,fCUPPED THUMB FORWARD,cMIDDLE THUMB CUPPED INDEX UP
cINDEX THUMB CUPPED MIDDLE UP,cMIDDLE THUMB CIRCLED INDEX UP,gHINGED
cINDEX THUMB ANGLED OUT MIDDLE UP,fIN MIDDLE UP,eCIRCLED MIDDLE UP,dMIDDLE THUMB CONJOINED HINGED
fANGLED OUT,g,cMIDDLE THUMB ANGLED OUT INDEX UP,hCROSSED,fINDEX UP
cINDEX THUMB HOOKED MIDDLE HINGED,bHAND-FLAT FOUR FINGERS,eBENT,eHINGED,eCONJOINED,fSPLIT
bHAND-CLAW FOUR FINGERS CONJOINED,bHAND-FIST FOUR FINGERS CONJOINED BENT
bHAND-HINGE FOUR FINGERS CONJOINED,bHAND-FLAT FIVE FINGERS SPREAD,cHEEL FIVE FINGERS SPREAD
cFIVE FINGERS SPREAD FOUR BENT,cHEEL FIVE FINGERS SPREAD FOUR BENT,cFIVE FINGERS SPREAD BENT
cHEEL FIVE FINGERS SPREAD BENT,cFIVE FINGERS SPREAD THUMB FORWARD,bHAND-CUP FIVE FINGERS SPREAD
fOPEN,bHAND-HINGE FIVE FINGERS SPREAD OPEN,bHAND-OVAL FIVE FINGERS SPREAD
bHAND-FLAT FIVE FINGERS SPREAD HINGED,gTHUMB SIDE,gNO THUMB,c,cBETWEEN PALM FACINGS,cHEEL
cTHUMB SIDE,cHEEL THUMB SIDE,cTHUMB BENT,dFORWARD,cSPLIT INDEX THUMB SIDE,dCENTRE,eTHUMB SIDE
gBENT,dLITTLE,bHAND-CLAW,cTHUMB SIDE,cNO THUMB,cTHUMB FORWARD,bHAND-HOOK CURLICUE,c,bHAND-CUP OPEN
c,cOPEN THUMB SIDE,cTHUMB SIDE,cOPEN NO THUMB,cNO THUMB,cOPEN THUMB FORWARD,cTHUMB FORWARD
bHAND-CURLICUE OPEN,c,bHAND-CIRCLE,bHAND-OVAL,cTHUMB SIDE,cNO THUMB,cTHUMB FORWARD
bHAND-HINGE OPEN,dTHUMB FORWARD,c,cSMALL,cOPEN THUMB SIDE,cTHUMB SIDE,cOPEN NO THUMB,cNO THUMB
cTHUMB SIDE TOUCHING INDEX,dBETWEEN MIDDLE RING,bHAND-ANGLE,bHAND-FIST INDEX MIDDLE RING
bHAND-CIRCLE INDEX MIDDLE RING,bHAND-HINGE INDEX MIDDLE RING,bHAND-ANGLE INDEX MIDDLE RING
bHAND-HINGE LITTLE,bHAND-FIST INDEX MIDDLE RING BENT,fCONJOINED
bHAND-HINGE INDEX MIDDLE RING CONJOINED,bHAND-FIST LITTLE DOWN,eRIPPLE STRAIGHT,fCURVED
eOTHERS CIRCLED,dUP,cTHUMB UNDER LITTLE UP,bHAND-CIRCLE LITTLE UP,bHAND-OVAL LITTLE UP
bHAND-ANGLE LITTLE UP,bHAND-FIST LITTLE RAISED KNUCKLE,dBENT,dTOUCHES THUMB,dTHUMB
bHAND-HINGE LITTLE THUMB,bHAND-FIST LITTLE INDEX THUMB,bHAND-HINGE LITTLE INDEX THUMB
bHAND-ANGLE LITTLE INDEX THUMB INDEX THUMB OUT,h,bHAND-FIST LITTLE INDEX,bHAND-CIRCLE LITTLE INDEX
bHAND-HINGE LITTLE INDEX,bHAND-ANGLE LITTLE INDEX,bHAND-FIST INDEX MIDDLE LITTLE
bHAND-CIRCLE INDEX MIDDLE LITTLE,bHAND-HINGE INDEX MIDDLE LITTLE,cRING
bHAND-ANGLE INDEX MIDDLE LITTLE,bHAND-FIST INDEX MIDDLE CROSS LITTLE
bHAND-CIRCLE INDEX MIDDLE CROSS LITTLE,bHAND-FIST RING DOWN
bHAND-HINGE RING DOWN INDEX THUMB HOOK MIDDLE,bHAND-ANGLE RING DOWN MIDDLE THUMB INDEX CROSS
bHAND-FIST RING UP,dRAISED KNUCKLE,dLITTLE,bHAND-CIRCLE RING LITTLE,bHAND-OVAL RING LITTLE
bHAND-ANGLE RING LITTLE,bHAND-FIST RING MIDDLE,eCONJOINED,eRAISED KNUCKLES,dINDEX,dTHUMB
bHAND-HOOK RING THUMB,bHAND-FIST INDEX RING LITTLE,bHAND-CIRCLE INDEX RING LITTLE
bHAND-CURLICUE INDEX RING LITTLE ON,bHAND-HOOK INDEX RING LITTLE OUT,fIN,fUNDER
bHAND-CUP INDEX RING LITTLE,bHAND-HINGE INDEX RING LITTLE,bHAND-ANGLE INDEX RING LITTLE OUT,f
bHAND-FIST MIDDLE DOWN,bHAND-HINGE MIDDLE,bHAND-FIST MIDDLE UP,bHAND-CIRCLE MIDDLE UP
bHAND-FIST MIDDLE RAISED KNUCKLE,dUP THUMB SIDE,bHAND-HOOK MIDDLE THUMB
bHAND-FIST MIDDLE THUMB LITTLE,dLITTLE,dRING LITTLE,bHAND-CIRCLE MIDDLE RING LITTLE
bHAND-CURLICUE MIDDLE RING LITTLE ON,bHAND-CUP MIDDLE RING LITTLE,bHAND-HINGE MIDDLE RING LITTLE
bHAND-ANGLE MIDDLE RING LITTLE OUT,fIN,f,bHAND-CIRCLE MIDDLE RING LITTLE BENT
bHAND-CLAW MIDDLE RING LITTLE CONJOINED,gSIDE,bHAND-HOOK MIDDLE RING LITTLE CONJOINED OUT,gIN,g
bHAND-HINGE INDEX HINGED,bHAND-FIST INDEX THUMB SIDE,bHAND-HINGE INDEX THUMB SIDE
bHAND-FIST INDEX THUMB SIDE THUMB DIAGONAL,gCONJOINED,gBENT,fINDEX BENT,fBOTH BENT,fINDEX HINGE
eFORWARD INDEX STRAIGHT,gBENT,eHOOK,eCURLICUE,eCURVE THUMB INSIDE
bHAND-CLAW INDEX THUMB CURVE THUMB INSIDE,bHAND-FIST INDEX THUMB CURVE THUMB UNDER,eCIRCLE
bHAND-CUP INDEX THUMB,eOPEN,bHAND-HINGE INDEX THUMB OPEN,eLARGE,e,eSMALL
bHAND-ANGLE INDEX THUMB OUT,eIN,e,bHAND-FIST THUMB,dHEEL,dSIDE DIAGONAL,eCONJOINED,eBENT,dFORWARD
dBETWEEN INDEX MIDDLE,eMIDDLE RING,eRING LITTLE,dUNDER TWO FINGERS,dOVER TWO FINGERS
dUNDER THREE FINGERS,eFOUR FINGERS,dOVER FOUR RAISED KNUCKLES,c,cHEEL,bTOUCH SINGLE,cMULTIPLE
cBETWEEN,bGRASP SINGLE,cMULTIPLE,cBETWEEN,bSTRIKE SINGLE,cMULTIPLE,cBETWEEN,bBRUSH SINGLE
cMULTIPLE,cBETWEEN,bRUB SINGLE,cMULTIPLE,cBETWEEN,bSURFACE SYMBOLS,cBETWEEN,bSQUEEZE LARGE SINGLE
cSMALL SINGLE,cLARGE MULTIPLE,cSMALL MULTIPLE,cSEQUENTIAL,bFLICK LARGE SINGLE,cSMALL SINGLE
cLARGE MULTIPLE,cSMALL MULTIPLE,cSEQUENTIAL,bSQUEEZE FLICK ALTERNATING
bMOVEMENT-HINGE UP DOWN LARGE,eSMALL,dSEQUENTIAL,cDOWN SEQUENTIAL,cUP DOWN ALTERNATING LARGE
fSMALL,cSIDE TO SIDE SCISSORS,bMOVEMENT-WALLPLANE FINGER CONTACT
bMOVEMENT-FLOORPLANE FINGER CONTACT,bMOVEMENT-WALLPLANE SINGLE STRAIGHT SMALL,eMEDIUM,eLARGE
eLARGEST,dWRIST FLEX,cDOUBLE STRAIGHT,dWRIST FLEX,dALTERNATING,eWRIST FLEX,cCROSS
cTRIPLE STRAIGHT MOVEMENT,dWRIST FLEX,dALTERNATING,eWRIST FLEX,cBEND SMALL,dMEDIUM,dLARGE
cCORNER SMALL,dMEDIUM,dLARGE,dROTATION,cCHECK SMALL,dMEDIUM,dLARGE,cBOX SMALL,dMEDIUM,dLARGE
cZIGZAG SMALL,dMEDIUM,dLARGE,cPEAKS SMALL,dMEDIUM,dLARGE
bTRAVEL-WALLPLANE ROTATION-WALLPLANE SINGLE,dDOUBLE,dALTERNATING,cROTATION-FLOORPLANE SINGLE
dDOUBLE,dALTERNATING,cSHAKING,cARM SPIRAL SINGLE,eDOUBLE,eTRIPLE,bMOVEMENT-DIAGONAL AWAY SMALL
dMEDIUM,dLARGE,dLARGEST,cTOWARDS SMALL,dMEDIUM,dLARGE,dLARGEST,cBETWEEN AWAY SMALL,eMEDIUM,eLARGE
eLARGEST,dTOWARDS SMALL,eMEDIUM,eLARGE,eLARGEST,bMOVEMENT-FLOORPLANE SINGLE STRAIGHT SMALL,eMEDIUM
eLARGE,eLARGEST,dWRIST FLEX,cDOUBLE STRAIGHT,dWRIST FLEX,dALTERNATING,eWRIST FLEX,cCROSS
cTRIPLE STRAIGHT MOVEMENT,dWRIST FLEX,dALTERNATING MOVEMENT,eWRIST FLEX,cBEND,cCORNER SMALL
dMEDIUM,dLARGE,cCHECK,cBOX SMALL,dMEDIUM,dLARGE,cZIGZAG SMALL,dMEDIUM,dLARGE,cPEAKS SMALL,dMEDIUM
dLARGE,bTRAVEL-FLOORPLANE ROTATION-FLOORPLANE SINGLE,dDOUBLE,dALTERNATING
cROTATION-WALLPLANE SINGLE,dDOUBLE,dALTERNATING,cSHAKING,bMOVEMENT-WALLPLANE CURVE QUARTER SMALL
eMEDIUM,eLARGE,eLARGEST,dHALF-CIRCLE SMALL,eMEDIUM,eLARGE,eLARGEST,dTHREE-QUARTER CIRCLE SMALL
fMEDIUM,cHUMP SMALL,dMEDIUM,dLARGE,cLOOP SMALL,dMEDIUM,dLARGE,dSMALL DOUBLE
cWAVE CURVE DOUBLE SMALL,fMEDIUM,fLARGE,eTRIPLE SMALL,fMEDIUM,fLARGE,cCURVE THEN STRAIGHT
cCURVED CROSS SMALL,eMEDIUM,bROTATION-WALLPLANE SINGLE,cDOUBLE,cALTERNATE
bMOVEMENT-WALLPLANE SHAKING,cCURVE HITTING FRONT WALL,cHUMP HITTING FRONT WALL
cLOOP HITTING FRONT WALL,cWAVE HITTING FRONT WALL,bROTATION-WALLPLANE SINGLE HITTING FRONT WALL
cDOUBLE HITTING FRONT WALL,cALTERNATING HITTING FRONT WALL,bMOVEMENT-WALLPLANE CURVE HITTING CHEST
cHUMP HITTING CHEST,cLOOP HITTING CHEST,cWAVE HITTING CHEST
bROTATION-WALLPLANE SINGLE HITTING CHEST,cDOUBLE HITTING CHEST,cALTERNATING HITTING CHEST
bMOVEMENT-WALLPLANE WAVE DIAGONAL PATH SMALL,fMEDIUM,fLARGE
bMOVEMENT-FLOORPLANE CURVE HITTING CEILING SMALL,fLARGE,cHUMP HITTING CEILING SMALL DOUBLE
fLARGE DOUBLE,fSMALL TRIPLE,fLARGE TRIPLE,cLOOP HITTING CEILING SMALL SINGLE,fLARGE SINGLE
fSMALL DOUBLE,fLARGE DOUBLE,cWAVE HITTING CEILING SMALL,fLARGE
bROTATION-FLOORPLANE SINGLE HITTING CEILING,cDOUBLE HITTING CEILING,cALTERNATING HITTING CEILING
bMOVEMENT-FLOORPLANE CURVE HITTING FLOOR SMALL,fLARGE,cHUMP HITTING FLOOR SMALL DOUBLE
fLARGE DOUBLE,fTRIPLE SMALL TRIPLE,gLARGE TRIPLE,cLOOP HITTING FLOOR SMALL SINGLE,fLARGE SINGLE
fSMALL DOUBLE,fLARGE DOUBLE,cWAVE HITTING FLOOR SMALL,fLARGE
bROTATION-FLOORPLANE SINGLE HITTING FLOOR,cDOUBLE HITTING FLOOR,cALTERNATING HITTING FLOOR
bMOVEMENT-FLOORPLANE CURVE SMALL,dMEDIUM,dLARGE,dLARGEST,dCOMBINED,cHUMP SMALL,cLOOP SMALL
cWAVE SNAKE,dSMALL,dLARGE,bROTATION-FLOORPLANE SINGLE,cDOUBLE,cALTERNATING
bMOVEMENT-FLOORPLANE SHAKING PARALLEL,bMOVEMENT-WALLPLANE ARM CIRCLE SMALL SINGLE,eMEDIUM SINGLE
eSMALL DOUBLE,eMEDIUM DOUBLE,bMOVEMENT-FLOORPLANE ARM CIRCLE HITTING WALL SMALL SINGLE
gMEDIUM SINGLE,gLARGE SINGLE,gSMALL DOUBLE,gMEDIUM DOUBLE,gLARGE DOUBLE
bMOVEMENT-WALLPLANE WRIST CIRCLE FRONT SINGLE,fDOUBLE
bMOVEMENT-FLOORPLANE WRIST CIRCLE HITTING WALL SINGLE,gDOUBLE
bMOVEMENT-WALLPLANE FINGER CIRCLES SINGLE,eDOUBLE
bMOVEMENT-FLOORPLANE FINGER CIRCLES HITTING WALL SINGLE,gDOUBLE,bDYNAMIC ARROWHEAD SMALL,dLARGE
cFAST,cSLOW,cTENSE,cRELAXED,cSIMULTANEOUS,dALTERNATING,cEVERY OTHER TIME,cGRADUAL,bHEAD,cRIM
cMOVEMENT-WALLPLANE STRAIGHT,dTILT,cMOVEMENT-FLOORPLANE STRAIGHT,cMOVEMENT-WALLPLANE CURVE
cMOVEMENT-FLOORPLANE CURVE,cMOVEMENT CIRCLE,bFACE DIRECTION POSITION NOSE FORWARD TILTING
fUP OR DOWN,iTILTING,bEYEBROWS STRAIGHT UP,dNEUTRAL,dDOWN,bDREAMY EYEBROWS NEUTRAL DOWN
dDOWN NEUTRAL,dUP NEUTRAL,dNEUTRAL UP,bFOREHEAD NEUTRAL,cCONTACT,cWRINKLED,bEYES OPEN,cSQUEEZED
cCLOSED,bEYE BLINK SINGLE,dMULTIPLE,bEYES HALF OPEN,cWIDE OPEN,cHALF CLOSED,cWIDENING MOVEMENT
bEYE WINK,bEYELASHES UP,cDOWN,cFLUTTERING,bEYEGAZE-WALLPLANE STRAIGHT,dDOUBLE,dALTERNATING
bEYEGAZE-FLOORPLANE STRAIGHT,dDOUBLE,dALTERNATING,bEYEGAZE-WALLPLANE CURVED
bEYEGAZE-FLOORPLANE CURVED,bEYEGAZE-WALLPLANE CIRCLING,bCHEEKS PUFFED,cNEUTRAL,cSUCKED
bTENSE CHEEKS HIGH,dMIDDLE,dLOW,bEARS,bNOSE NEUTRAL,cCONTACT,cWRINKLES,cWIGGLES,bAIR BLOWING OUT
cSUCKING IN,cBLOW SMALL ROTATIONS,cSUCK SMALL ROTATIONS,bBREATH INHALE,cEXHALE
bMOUTH CLOSED NEUTRAL,dFORWARD,dCONTACT,cSMILE,dWRINKLED,dOPEN,cFROWN,dWRINKLED,dOPEN,cOPEN CIRCLE
dFORWARD,dWRINKLED,dOVAL,eWRINKLED,eYAWN,dRECTANGLE,eWRINKLED,eYAWN,cKISS,dFORWARD,dWRINKLED
cTENSE,dFORWARD,dSUCKED,bLIPS PRESSED TOGETHER,bLIP LOWER OVER UPPER,cUPPER OVER LOWER
bMOUTH CORNERS,cWRINKLES SINGLE,dDOUBLE,bTONGUE STICKING OUT FAR,cLICKING LIPS,cTIP BETWEEN LIPS
dTOUCHING INSIDE MOUTH,cINSIDE MOUTH RELAXED,cMOVES AGAINST CHEEK,cCENTRE STICKING OUT
dINSIDE MOUTH,bTEETH,cMOVEMENT,cON TONGUE,eMOVEMENT,dLIPS,eMOVEMENT,cBITE LIPS
bMOVEMENT-WALLPLANE JAW,bMOVEMENT-FLOORPLANE JAW,bNECK,bHAIR,bEXCITEMENT,bSHOULDER HIP SPINE
dPOSITIONS,bWALLPLANE SHOULDER HIP MOVE,bFLOORPLANE SHOULDER HIP MOVE,bSHOULDER TILTING FROM WAIST
bTORSO-WALLPLANE STRAIGHT STRETCH,cCURVED BEND,bTORSO-FLOORPLANE TWISTING
bUPPER BODY TILTING FROM HIP JOINTS,bLIMB COMBINATION,cLENGTH-1,cLENGTH-2,cLENGTH-3,cLENGTH-4
cLENGTH-5,cLENGTH-6,cLENGTH-7,bFINGER,bLOCATION-WALLPLANE SPACE,bLOCATION-FLOORPLANE SPACE
bLOCATION HEIGHT,cWIDTH,cDEPTH,cHEAD NECK,cTORSO,cLIMBS DIGITS,bCOMMA,bFULL STOP,bSEMICOLON,bCOLON
bPARENTHESIS,1da9b:bFILL MODIFIER-2,cMODIFIER-3,cMODIFIER-4,cMODIFIER-5,cMODIFIER-6
1daa1:bROTATION MODIFIER-2,cMODIFIER-3,cMODIFIER-4,cMODIFIER-5,cMODIFIER-6,cMODIFIER-7,cMODIFIER-8
cMODIFIER-9,cMODIFIER-10,cMODIFIER-11,cMODIFIER-12,cMODIFIER-13,cMODIFIER-14,cMODIFIER-15
cMODIFIER-16,1df00:aLATIN SMALL LETTER FENG DIGRAPH WITH TRILL,dREVERSED SCRIPT G
bLETTER SMALL CAPITAL TURNED G,bSMALL LETTER REVERSED K,bLETTER SMALL CAPITAL L WITH BELT
bSMALL LETTER LEZH WITH RETROFLEX HOOK,dTURNED Y WITH BELT,dREVERSED ENG
dTURNED R WITH LONG LEG AND RETROFLEX HOOK,dT WITH HOOK AND RETROFLEX HOOK
bLETTER RETROFLEX CLICK WITH RETROFLEX HOOK,bSMALL LETTER ESH WITH DOUBLE BAR,hAND CURL
dTURNED T WITH CURL,bLETTER INVERTED GLOTTAL STOP WITH CURL,cSTRETCHED C WITH CURL
cSMALL CAPITAL TURNED K,bSMALL LETTER L WITH FISHHOOK,dDEZH DIGRAPH WITH PALATAL HOOK
dL WITH BELT AND PALATAL HOOK,dENG WITH PALATAL HOOK,dTURNED R WITH PALATAL HOOK
dR WITH FISHHOOK AND PALATAL HOOK,dTESH DIGRAPH WITH PALATAL HOOK,dEZH WITH PALATAL HOOK
dDEZH DIGRAPH WITH RETROFLEX HOOK,dI WITH STROKE AND RETROFLEX HOOK,dO WITH RETROFLEX HOOK
dTESH DIGRAPH WITH RETROFLEX HOOK,dC WITH RETROFLEX HOOK,dS WITH CURL
1e000:aCOMBINING GLAGOLITIC LETTER AZU,dBUKY,dVEDE,dGLAGOLI,dDOBRO,dYESTU,dZHIVETE,1e008:dZEMLJA
dIZHE,dINITIAL IZHE,dI,dDJERVI,dKAKO,dLJUDIJE,dMYSLITE,dNASHI,dONU,dPOKOJI,dRITSI,dSLOVO,dTVRIDO
dUKU,dFRITU,dHERU,1e01b:dSHTA,dTSI,dCHRIVI,dSHA,dYERU,dYERI,dYATI,1e023:dYU,dSMALL YUS,1e026:dYO
dIOTATED SMALL YUS,dBIG YUS,dIOTATED BIG YUS,dFITA,1e100:aNYIAKENG PUACHUE HMONG LETTER MA,eTSA
eNTA,eTA,eHA,eNA,eXA,eNKA,eCA,eLA,eSA,eZA,eNCA,eNTSA,eKA,eDA,eNYA,eNRA,eVA,eNTXA,eTXA,eFA,eRA,eQA
eYA,eNQA,ePA,eXYA,eNPA,eDLA,eNPLA,eHAH,eMLA,ePLA,eGA,eRRA,eA,eAA,eI,eU,eO,eOO,eE,eEE,eW
1e130:dTONE-B,dTONE-M,dTONE-J,dTONE-V,dTONE-S,dTONE-G,dTONE-D,dSIGN FOR PERSON,fTHING,fLOCATION
fANIMAL,fINVERTEBRATE,eXW XW,dSYLLABLE LENGTHENER,1e140:dDIGIT ZERO,eONE,eTWO,eTHREE,eFOUR,eFIVE
eSIX,eSEVEN,eEIGHT,eNINE,1e14e:dLOGOGRAM NYAJ,dCIRCLED CA,1e290:aTOTO LETTER PA,cBA,cTA,cDA,cKA
cGA,cMA,cNA,cNGA,cSA,cCHA,cYA,cWA,cJA,cHA,cRA,cLA,cI,cBREATHY I,cIU,cBREATHY IU,cU,cE,cBREATHY E
cEO,cBREATHY EO,cO,cAE,cBREATHY AE,cA,bSIGN RISING TONE,1e2c0:aWANCHO LETTER AA,cA,cBA,cCA,cDA,cGA
cYA,cPHA,cLA,cNA,cPA,cTA,cTHA,cFA,cSA,cSHA,cJA,cZA,cWA,cVA,cKA,cO,cAU,cRA,cMA,cKHA,cHA,cE,cI,cNGA
cU,cLLHA,cTSA,cTRA,cONG,cAANG,cANG,cING,cON,cEN,cAAN,cNYA,cUEN,cYIH,bTONE TUP,cTUPNI,cKOI,cKOINI
bDIGIT ZERO,cONE,cTWO,cTHREE,cFOUR,cFIVE,cSIX,cSEVEN,cEIGHT,cNINE,1e2ff:bNGUN SIGN
1e7e0:aETHIOPIC SYLLABLE HHYA,cHHYU,cHHYI,cHHYAA,cHHYEE,cHHYE,cHHYO,1e7e8:cGURAGE HHWA,cHHWI
cHHWEE,cHHWE,1e7ed:cGURAGE MWI,dMWEE,1e7f0:dQWI,dQWEE,dQWE,dBWI,dBWEE,dKWI,dKWEE,dKWE,dGWI,dGWEE
dGWE,dFWI,dFWEE,dPWI,dPWEE,1e800:aMENDE KIKAKUI SYLLABLE M001 KI,dM002 KA,dM003 KU,dM065 KEE
dM095 KE,dM076 KOO,dM048 KO,dM179 KUA,dM004 WI,dM005 WA,dM006 WU,dM126 WEE,dM118 WE,dM114 WOO
dM045 WO,dM194 WUI,dM143 WEI,dM061 WVI,dM049 WVA,dM139 WVE,dM007 MIN,dM008 MAN,dM009 MUN,dM059 MEN
dM094 MON,dM154 MUAN,dM189 MUEN,dM010 BI,dM011 BA,dM012 BU,dM150 BEE,dM097 BE,dM103 BOO,dM138 BO
dM013 I,dM014 A,dM015 U,dM163 EE,dM100 E,dM165 OO,dM147 O,dM137 EI,dM131 IN,dM135 IN,dM195 AN
dM178 EN,dM019 SI,dM020 SA,dM021 SU,dM162 SEE,dM116 SE,dM136 SOO,dM079 SO,dM196 SIA,dM025 LI
dM026 LA,dM027 LU,dM084 LEE,dM073 LE,dM054 LOO,dM153 LO,dM110 LONG LE,dM016 DI,dM017 DA,dM018 DU
dM089 DEE,dM180 DOO,dM181 DO,dM022 TI,dM023 TA,dM024 TU,dM091 TEE,dM055 TE,dM104 TOO,dM069 TO
dM028 JI,dM029 JA,dM030 JU,dM157 JEE,dM113 JE,dM160 JOO,dM063 JO,dM175 LONG JO,dM031 YI,dM032 YA
dM033 YU,dM109 YEE,dM080 YE,dM141 YOO,dM121 YO,dM034 FI,dM035 FA,dM036 FU,dM078 FEE,dM075 FE
dM133 FOO,dM088 FO,dM197 FUA,dM101 FAN,dM037 NIN,dM038 NAN,dM039 NUN,dM117 NEN,dM169 NON,dM176 HI
dM041 HA,dM186 HU,dM040 HEE,dM096 HE,dM042 HOO,dM140 HO,dM083 HEEI,dM128 HOOU,dM053 HIN,dM130 HAN
dM087 HUN,dM052 HEN,dM193 HON,dM046 HUAN,dM090 NGGI,dM043 NGGA,dM082 NGGU,dM115 NGGEE,dM146 NGGE
dM156 NGGOO,dM120 NGGO,dM159 NGGAA,dM127 NGGUA,dM086 LONG NGGE,dM106 LONG NGGOO,dM183 LONG NGGO
dM155 GI,dM111 GA,dM168 GU,dM190 GEE,dM166 GUEI,dM167 GUAN,dM184 NGEN,dM057 NGON,dM177 NGUAN
dM068 PI,dM099 PA,dM050 PU,dM081 PEE,dM051 PE,dM102 POO,dM066 PO,dM145 MBI,dM062 MBA,dM122 MBU
dM047 MBEE,dM188 MBEE,dM072 MBE,dM172 MBOO,dM174 MBO,dM187 MBUU,dM161 LONG MBE,dM105 LONG MBOO
dM142 LONG MBO,dM132 KPI,dM092 KPA,dM074 KPU,dM044 KPEE,dM108 KPE,dM112 KPOO,dM158 KPO,dM124 GBI
dM056 GBA,dM148 GBU,dM093 GBEE,dM107 GBE,dM071 GBOO,dM070 GBO,dM171 RA,dM123 NDI,dM129 NDA
dM125 NDU,dM191 NDEE,dM119 NDE,dM067 NDOO,dM064 NDO,dM152 NJA,dM192 NJU,dM149 NJEE,dM134 NJOO
dM182 VI,dM185 VA,dM151 VU,dM173 VEE,dM085 VE,dM144 VOO,dM077 VO,dM164 NYIN,dM058 NYAN,dM170 NYUN
dM098 NYEN,dM060 NYON,1e8c7:cDIGIT ONE,dTWO,dTHREE,dFOUR,dFIVE,dSIX,dSEVEN,dEIGHT,dNINE
cCOMBINING NUMBER TEENS,eTENS,eHUNDREDS,eTHOUSANDS,eTEN THOUSANDS,eHUNDRED THOUSANDS,eMILLIONS
1e900:aADLAM CAPITAL LETTER ALIF,dDAALI,dLAAM,dMIIM,dBA,dSINNYIIYHE,dPE,dBHE,dRA,dE,dFA,dI,dO,dDHA
dYHE,dWAW,dNUN,dKAF,dYA,dU,dJIIM,dCHI,dHA,dQAAF,dGA,dNYA,dTU,dNHA,dVA,dKHA,dGBE,dZAL,dKPO,dSHA
bSMALL LETTER ALIF,dDAALI,dLAAM,dMIIM,dBA,dSINNYIIYHE,dPE,dBHE,dRA,dE,dFA,dI,dO,dDHA,dYHE,dWAW
dNUN,dKAF,dYA,dU,dJIIM,dCHI,dHA,dQAAF,dGA,dNYA,dTU,dNHA,dVA,dKHA,dGBE,dZAL,dKPO,dSHA
bALIF LENGTHENER,bVOWEL LENGTHENER,bGEMINATION MARK,bHAMZA,bCONSONANT MODIFIER
bGEMINATE CONSONANT MODIFIER,bNUKTA,bNASALIZATION MARK,1e950:bDIGIT ZERO,cONE,cTWO,cTHREE,cFOUR
cFIVE,cSIX,cSEVEN,cEIGHT,cNINE,1e95e:bINITIAL EXCLAMATION MARK,cQUESTION MARK
1ec71:aINDIC SIYAQ NUMBER ONE,dTWO,dTHREE,dFOUR,dFIVE,dSIX,dSEVEN,dEIGHT,dNINE,dTEN,dTWENTY
dTHIRTY,dFORTY,dFIFTY,dSIXTY,dSEVENTY,dEIGHTY,dNINETY,dONE HUNDRED,dTWO HUNDRED,dTHREE HUNDRED
dFOUR HUNDRED,dFIVE HUNDRED,dSIX HUNDRED,dSEVEN HUNDRED,dEIGHT HUNDRED,dNINE HUNDRED,dONE THOUSAND
dTWO THOUSAND,dTHREE THOUSAND,dFOUR THOUSAND,dFIVE THOUSAND,dSIX THOUSAND,dSEVEN THOUSAND
dEIGHT THOUSAND,dNINE THOUSAND,dTEN THOUSAND,dTWENTY THOUSAND,dTHIRTY THOUSAND,dFORTY THOUSAND
dFIFTY THOUSAND,dSIXTY THOUSAND,dSEVENTY THOUSAND,dEIGHTY THOUSAND,dNINETY THOUSAND,dLAKH,dLAKHAN
cLAKH MARK,cNUMBER KAROR,dKARORAN,dPREFIXED ONE,eTWO,eTHREE,eFOUR,eFIVE,eSIX,eSEVEN,eEIGHT,eNINE
cPLACEHOLDER,cFRACTION ONE QUARTER,eHALF,dTHREE QUARTERS,cRUPEE MARK,cNUMBER ALTERNATE ONE,eTWO
eTEN THOUSAND,cALTERNATE LAKH MARK,1ed01:aOTTOMAN SIYAQ NUMBER ONE,dTWO,dTHREE,dFOUR,dFIVE,dSIX
dSEVEN,dEIGHT,dNINE,dTEN,dTWENTY,dTHIRTY,dFORTY,dFIFTY,dSIXTY,dSEVENTY,dEIGHTY,dNINETY
dONE HUNDRED,dTWO HUNDRED,dTHREE HUNDRED,dFOUR HUNDRED,dFIVE HUNDRED,dSIX HUNDRED,dSEVEN HUNDRED
dEIGHT HUNDRED,dNINE HUNDRED,dONE THOUSAND,dTWO THOUSAND,dTHREE THOUSAND,dFOUR THOUSAND
dFIVE THOUSAND,dSIX THOUSAND,dSEVEN THOUSAND,dEIGHT THOUSAND,dNINE THOUSAND,dTEN THOUSAND
dTWENTY THOUSAND,dTHIRTY THOUSAND,dFORTY THOUSAND,dFIFTY THOUSAND,dSIXTY THOUSAND
dSEVENTY THOUSAND,dEIGHTY THOUSAND,dNINETY THOUSAND,cMARRATAN,cALTERNATE NUMBER TWO,eTHREE,eFOUR
eFIVE,eSIX,eSEVEN,eEIGHT,eNINE,eTEN,eFOUR HUNDRED,eSIX HUNDRED,eTWO THOUSAND,eTEN THOUSAND
cFRACTION ONE HALF,eSIXTH,1ee00:aARABIC MATHEMATICAL ALEF,cBEH,cJEEM,cDAL,1ee05:cWAW,cZAIN,cHAH
cTAH,cYEH,cKAF,cLAM,cMEEM,cNOON,cSEEN,cAIN,cFEH,cSAD,cQAF,cREH,cSHEEN,cTEH,cTHEH,cKHAH,cTHAL,cDAD
cZAH,cGHAIN,cDOTLESS BEH,dNOON,dFEH,dQAF,1ee21:cINITIAL BEH,dJEEM,1ee24:dHEH,1ee27:dHAH,1ee29:dYEH
dKAF,dLAM,dMEEM,dNOON,dSEEN,dAIN,dFEH,dSAD,dQAF,1ee34:dSHEEN,dTEH,dTHEH,dKHAH,1ee39:dDAD
1ee3b:dGHAIN,1ee42:cTAILED JEEM,1ee47:dHAH,1ee49:dYEH,1ee4b:dLAM,1ee4d:dNOON,dSEEN,dAIN,1ee51:dSAD
dQAF,1ee54:dSHEEN,1ee57:dKHAH,1ee59:dDAD,1ee5b:dGHAIN,1ee5d:dDOTLESS NOON,1ee5f:eQAF
1ee61:cSTRETCHED BEH,dJEEM,1ee64:dHEH,1ee67:dHAH,dTAH,dYEH,dKAF,1ee6c:dMEEM,dNOON,dSEEN,dAIN,dFEH
dSAD,dQAF,1ee74:dSHEEN,dTEH,dTHEH,dKHAH,1ee79:dDAD,dZAH,dGHAIN,dDOTLESS BEH,1ee7e:eFEH
1ee80:cLOOPED ALEF,dBEH,dJEEM,dDAL,dHEH,dWAW,dZAIN,dHAH,dTAH,dYEH,1ee8b:dLAM,dMEEM,dNOON,dSEEN
dAIN,dFEH,dSAD,dQAF,dREH,dSHEEN,dTEH,dTHEH,dKHAH,dTHAL,dDAD,dZAH,dGHAIN,1eea1:cDOUBLE-STRUCK BEH
dJEEM,dDAL,1eea5:dWAW,dZAIN,dHAH,dTAH,dYEH,1eeab:dLAM,dMEEM,dNOON,dSEEN,dAIN,dFEH,dSAD,dQAF,dREH
dSHEEN,dTEH,dTHEH,dKHAH,dTHAL,dDAD,dZAH,dGHAIN,1eef0:cOPERATOR MEEM WITH HAH WITH TATWEEL
dHAH WITH DAL"

end LogViewer.Text.CharacterName
