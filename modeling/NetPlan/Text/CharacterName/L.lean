/-!
# Names of characters: L

The names of characters that start with the letter L, as rows of a table.
-/

namespace NetPlan.Text.CharacterName

/-- The names that start with L. -/
def rowsL : List String :=
  ["aL B BAR SYMBOLbAB COATdELcCROSSE STICK AND BALLcDDERdY BEETLEcNGUAGE TAG",
    "cO CANCELLATION MARKeDIGIT EIGHTkFIVElOURkNINEkONEkSEVENlIXkTHREElWOkZEROeELLIPSISeHO MOhNO",
    "eKO LAeLETTER BOlCOlDOlFO FAYpONoSUNGoTAMlHO SUNGoTAMlKHMU GOqNYOnO SUNGpTAMmOlLOn LINGpOOT",
    "lMOlNGOmOmYOlOlPALI BHAqCHAqDDAsHArHAqGHAqJHAqLLAqNNArYAqTTAsHAmHO SUNGpTAMmOlRO",
    "lSANSKRIT SHAvSAmO SUNGoTAMlTHO SUNGpTAMmOlWOlYOeNIGGAHITAeSEMIVOWEL SIGN LOtNYO",
    "fIGN PALI VIRAMAeTONE MAI CATAWAnEKnTHOoIeVOWEL SIGN AqAqIqMqYpEqIpIqIpMAI KANuONpOpUqUpYqY",
    "cRGE BLUE CIRCLElDIAMONDlSQUAREhROWN CIRCLEmSQUAREgCIRCLEgDOWN TACKgGREEN CIRCLEmSQUARE",
    "gLEFT TRIANGLE OPERATORgONE DOT OVER TWO DOTS PUNCTUATIONkRING OVER TWO RINGS PUNCTUATION",
    "hRANGE CIRCLEnDIAMONDnSQUAREgPURPLE CIRCLEnSQUAREgRED CIRCLEkSQUARE",
    "gTRIPLE VERTICAL BAR OPERATORhWO DOTS OVER ONE DOT PUNCTUATION",
    "kRINGS OVER ONE RING PUNCTUATIONgUP TACKgYELLOW CIRCLEnSQUAREfR THANl OR EQUAL TOdI SIGN",
    "cST QUARTER MOONr SYMBOLsWITH FACEcTIN CAPITAL LETTER Aw WITH ACUTEbcBREVEbh AND ACUTE",
    "bmDOT BELOWbmGRAVEbmHOOK ABOVEbmTILDEbcCARONbdIRCUMFLEXbm AND ACUTEbrDOT BELOWbrGRAVE",
    "brHOOK ABOVEbrTILDEbcDIAERESISbl AND MACRONbdOT ABOVEbl AND MACRONbgBELOWbeUBLE GRAVEbcGRAVE",
    "bcHOOK ABOVEbcINVERTED BREVEbcMACRONbcOGONEKbcRING ABOVEbm AND ACUTEbhBELOWbcSTROKEbcTILDEwA",
    "wEx WITH ACUTEbdMACRONwFRICAN DwLPHAwNGLICANA WwOwUwVx WITH HORIZONTAL BARwYvB",
    "w WITH DOT ABOVEbgBELOWbcFLOURISHbcHOOKbcLINE BELOWbcSTROKEbcTOPBARwETAwROKEN LvC",
    "w WITH ACUTEbcBARbcCARONbdEDILLAbj AND ACUTEbdIRCUMFLEXbcDOT ABOVEbcHOOKbcPALATAL HOOK",
    "bcSTROKEwHIwLOSED INSULAR GwONwUATRILLObe WITH COMMAvDw WITH CARONbdEDILLAbdIRCUMFLEX BELOW",
    "bcDOT ABOVEbgBELOWbcHOOKbcLINE BELOWbcSHORT STROKE OVERLAYbdMALL LETTER Zbq WITH CARON",
    "bdTROKEbcTOPBARwZx WITH CARONvEw WITH ACUTEbcBREVEbcCARONbdEDILLAbj AND BREVEbdIRCUMFLEX",
    "bm AND ACUTEbrDOT BELOWbrGRAVEbrHOOK ABOVEbrTILDEbnBELOWbcDIAERESISbdOT ABOVEbgBELOW",
    "beUBLE GRAVEbcGRAVEbcHOOK ABOVEbcINVERTED BREVEbcMACRONbi AND ACUTEbnGRAVEbcOGONEKbcSTROKE",
    "bcTILDEbh BELOWwGYPTOLOGICAL AINbkLEFwNGwSHwTxHwZHy REVERSEDzWITH CARONvFw WITH DOT ABOVE",
    "bcHOOKbcSTROKEvGw WITH ACUTEbcBREVEbcCARONbdEDILLAbdIRCUMFLEXbcDOT ABOVEbcHOOKbcMACRON",
    "bcOBLIQUE STROKEbcSTROKEwAMMAwHAwLOTTAL AbdIbdSTOPbdUvHw WITH BREVE BELOWbcCARONbdEDILLA",
    "bdIRCUMFLEXbcDESCENDERbdIAERESISbdOT ABOVEbgBELOWbcHOOKbcSTROKEwALF HwENGwWAIRvIw WITH ACUTE",
    "bcBREVEbcCARONbdIRCUMFLEXbcDIAERESISbl AND ACUTEbdOT ABOVEbgBELOWbeUBLE GRAVEbcGRAVE",
    "bcHOOK ABOVEbcINVERTED BREVEbcMACRONbcOGONEKbcSTROKEbcTILDEbh BELOWwNSULAR DbdFbdGbdRbdSbdT",
    "wOTAwSvJw WITH CIRCUMFLEXbdROSSED-TAILbcSTROKEvKw WITH ACUTEbcCARONbdEDILLAbcDESCENDER",
    "bdIAGONAL STROKEbdOT BELOWbcHOOKbcLINE BELOWbcOBLIQUE STROKEbcSTROKEbi AND DIAGONAL STROKEvL",
    "w WITH ACUTEbcBARbdELTbcCARONbdEDILLAbdIRCUMFLEX BELOWbcDOT BELOWbl AND MACRONbeUBLE BAR",
    "bcHIGH STROKEbcLINE BELOWbcMIDDLE DOTbjTILDEbcSMALL LETTER JbdTROKEwJvMw WITH ACUTE",
    "bcDOT ABOVEbgBELOWbcHOOKwIDDLE SCOTS Sbb-WELSH LLbiVvNw WITH ACUTEbcCARONbdEDILLA",
    "bdIRCUMFLEX BELOWbcDESCENDERbdOT ABOVEbgBELOWbcGRAVEbcLEFT HOOKbdINE BELOWbdONG RIGHT LEG",
    "bcOBLIQUE STROKEbcSMALL LETTER JbcTILDEwJvOw WITH ACUTEbcBREVEbcCARONbdIRCUMFLEXbm AND ACUTE",
    "brDOT BELOWbrGRAVEbrHOOK ABOVEbrTILDEbcDIAERESISbl AND MACRONbdOT ABOVEbl AND MACRONbgBELOW",
    "beUBLE ACUTEbjGRAVEbcGRAVEbcHOOK ABOVEbeRNbg AND ACUTEblDOT BELOWblGRAVEblHOOK ABOVEblTILDE",
    "bcINVERTED BREVEbcLONG STROKE OVERLAYbeOPbcMACRONbi AND ACUTEbnGRAVEbdIDDLE TILDEbcOGONEK",
    "bi AND MACRONbcSTROKEbi AND ACUTEbcTILDEbh AND ACUTEbmDIAERESISbmMACRONwIwLD POLISH OwMEGAwO",
    "wPEN EbaOwUvPw WITH ACUTEbcDOT ABOVEbcFLOURISHbcHOOKbcSQUIRREL TAILbdTROKE",
    "bi THROUGH DESCENDERvQw WITH DIAGONAL STROKEbcSTROKE THROUGH DESCENDERvRw ROTUNDAxWITH ACUTE",
    "bcCARONbdEDILLAbcDOT ABOVEbgBELOWbl AND MACRONbeUBLE GRAVEbcINVERTED BREVEbcLINE BELOW",
    "bcOBLIQUE STROKEbcSTROKEbcTAILwEVERSED C WITH DOTbeEbeHALF HbeOPEN EwUM ROTUNDAvS",
    "w WITH ACUTEbh AND DOT ABOVEbcCARONbh AND DOT ABOVEbdEDILLAbdIRCUMFLEXbdOMMA BELOW",
    "bcDOT ABOVEbgBELOWbl AND DOT ABOVEbcHOOKbcOBLIQUE STROKEbcSHORT STROKE OVERLAYbdWASH TAIL",
    "wALTILLOwCHWAxRIPT GwHARP SwIGMOID SwMALL CAPITAL IbbQ WITH HOOK TAILvTw WITH CARONbdEDILLA",
    "bdIRCUMFLEX BELOWbdOMMA BELOWbcDIAGONAL STROKEbdOT ABOVEbgBELOWbcHOOKbcLINE BELOW",
    "bcRETROFLEX HOOKbcSTROKEwHORNba WITH STROKEbm THROUGH DESCENDERwONE FIVEbaSIXbaTWOwRESILLO",
    "wURNED AbdLPHAbcHbcINSULAR GbcKbcLbcMbcTbcVwZvUw BARxWITH ACUTEbcBREVEbcCARONbdIRCUMFLEX",
    "bm BELOWbcDIAERESISbl AND ACUTEbqCARONbqGRAVEbqMACRONbmBELOWbdOT BELOWbeUBLE ACUTEbjGRAVE",
    "bcGRAVEbcHOOK ABOVEbeRNbg AND ACUTEblDOT BELOWblGRAVEblHOOK ABOVEblTILDEbcINVERTED BREVE",
    "bcMACRONbi AND DIAERESISbcOGONEKbcRING ABOVEbcSTROKEbcTILDEbh AND ACUTEbiBELOWwPSILONvV",
    "w WITH DIAGONAL STROKEbdOT BELOWbcHOOKbcTILDEwENDwISIGOTHIC ZwOLAPUK AEbdOEbdUEwYvW",
    "w WITH ACUTEbcCIRCUMFLEXbcDIAERESISbdOT ABOVEbgBELOWbcGRAVEbcHOOKwYNNvXw WITH DIAERESIS",
    "bdOT ABOVEvYw WITH ACUTEbcCIRCUMFLEXbcDIAERESISbdOT ABOVEbgBELOWbcGRAVEbcHOOKbg ABOVEbcLOOP",
    "bcMACRONbcSTROKEbcTILDEwOGHvZw WITH ACUTEbcCARONbdIRCUMFLEXbcDESCENDERbdOT ABOVEbgBELOW",
    "bcHOOKbcLINE BELOWbcPALATAL HOOKbcSTROKEbdWASH TAILpIGATURE IJxOEhROSS",
    "gEPIGRAPHIC LETTER ARCHAIC MyI LONGAzNVERTED MyREVERSED FbhPySIDEWAYS IgLETTER AIN",
    "oLVEOLAR CLICKnBIDENTAL PERCUSSIVEpLABIAL CLICKwPERCUSSIVEnDENTAL CLICKnGLOTTAL STOP",
    "z WITH STROKEnINVERTED GLOTTAL STOPbi WITH CURLboSTROKEnLATERAL CLICK",
    "nPHARYNGEAL VOICED FRICATIVEnRETROFLEX CLICKbc WITH RETROFLEX HOOKpVERSED ESH LOOP",
    "wGLOTTAL STOP WITH STROKEnSINOLOGICAL DOToMALL CAPITAL AbcEbbBbcARRED BbbCbbDbbEbcTHbcZHbbF",
    "bbGbc WITH HOOKbbHbbIbcNVERTED RbbJbbKbbLbc WITH BELTbiSTROKEbbMbbNbbObcEbcPEN ObcUbbPbbQbbR",
    "bc WITH RIGHT LEGbcEVERSED NbkRbcUMbbSbbTbcURNED EbiGbiKbiMbiRbbUbbVbbWbbYbbZoTRETCHED C",
    "y WITH CURLnTWO WITH STROKEnVOICED LARYNGEAL SPIRANTnWYNNnYR",
    "gSMALL CAPITAL LETTER I WITH STROKEbbU WITH STROKEmLETTER Au REVERSED-SCHWAvWITH ACUTE",
    "baBREVEbf AND ACUTEbkDOT BELOWbkGRAVEbkHOOK ABOVEbkTILDEbaCARONbbIRCUMFLEXbk AND ACUTE",
    "bpDOT BELOWbpGRAVEbpHOOK ABOVEbpTILDEbaDIAERESISbj AND MACRONbbOT ABOVEbj AND MACRONbeBELOW",
    "bcUBLE GRAVEbaGRAVEbaHOOK ABOVEbaINVERTED BREVEbaMACRONbaOGONEKbaRETROFLEX HOOK",
    "bbIGHT HALF RINGbcNG ABOVEbk AND ACUTEbfBELOWbaSTROKEbaTILDEuAuEv WITH ACUTEbbMACRONuLPHA",
    "y WITH RETROFLEX HOOKuNGLICANA WuOuUuVv WITH HORIZONTAL BARuYtBu WITH DOT ABOVEbeBELOW",
    "baFLOURISHbaHOOKbaLINE BELOWbaMIDDLE TILDEbaPALATAL HOOKbaSTROKEbaTOPBARuARRED ALPHAbaEbaO",
    "vSELINE ESHuETAuLACKLETTER EbfObg WITH STROKEuOTTOM HALF OuROKEN LtCu WITH ACUTEbaBARbaCARON",
    "bbEDILLAbh AND ACUTEbbIRCUMFLEXbbURLbaDOT ABOVEbaHOOKbaPALATAL HOOKbaRETROFLEX HOOKbaSTROKE",
    "uHIw WITH LOW LEFT SERIFbgRIGHT RINGuLOSED INSULAR GbaOMEGAbbPEN EbaREVERSED OPEN EuON",
    "uUATRILLObc WITH COMMAtDu WITH CARONbbEDILLAbbIRCUMFLEX BELOWbbURLbaDOT ABOVEbeBELOWbaHOOK",
    "be AND TAILbaLINE BELOWbaMIDDLE TILDEbaPALATAL HOOKbaSHORT STROKE OVERLAYbbTROKEbaTAIL",
    "bbOPBARuB DIGRAPHuELTAvZH DIGRAPHbf WITH PALATAL HOOKblRETROFLEX HOOKuOTLESS IbbJ",
    "bc WITH STROKEbo AND HOOKvUBLE Rbb WITH CROSSED-TAILbaTHORNbaWYNNuUMuZv DIGRAPHbd WITH CURL",
    "bjRETROFLEX HOOKwWITH CARONtEu WITH ACUTEbaBREVEbaCARONbbEDILLAbh AND BREVEbbIRCUMFLEX",
    "bk AND ACUTEbpDOT BELOWbpGRAVEbpHOOK ABOVEbpTILDEblBELOWbaDIAERESISbbOT ABOVEbeBELOW",
    "bcUBLE GRAVEbaFLOURISHbaGRAVEbaHOOK ABOVEbaINVERTED BREVEbaMACRONbg AND ACUTEblGRAVEbaNOTCH",
    "baOGONEKbaRETROFLEX HOOKbaSTROKEbaTILDEbf BELOWuGYPTOLOGICAL AINbiLEFuNGw WITH CROSSED-TAIL",
    "bcPALATAL HOOKuSHw WITH CURLbcDOUBLE BARbm AND CURLbcPALATAL HOOKbcRETROFLEX HOOKuTvHuZH",
    "w REVERSEDxWITH CARONbdURLbcPALATAL HOOKbcRETROFLEX HOOKbcTAILtFu WITH DOT ABOVEbaHOOK",
    "baMIDDLE TILDEbaPALATAL HOOKbaSTROKEuENG DIGRAPHbf WITH TRILLtGu WITH ACUTEbaBREVEbaCARON",
    "bbEDILLAbbIRCUMFLEXbaDOT ABOVEbaHOOKbaMACRONbaOBLIQUE STROKEbaPALATAL HOOKbaSTROKEuAMMAuHA",
    "uLOTTAL AbbIbbSTOPbbUtHu WITH BREVE BELOWbaCARONbbEDILLAbbIRCUMFLEXbaDESCENDERbbIAERESIS",
    "bbOT ABOVEbeBELOWbaHOOKbaLINE BELOWbaPALATAL HOOKbaSTROKEuALF HuENGx WITH HOOKuVtI",
    "u WITH ACUTEbaBREVEbaCARONbbIRCUMFLEXbaDIAERESISbj AND ACUTEbbOT BELOWbcUBLE GRAVEbaGRAVE",
    "baHOOK ABOVEbaINVERTED BREVEbaMACRONbaOGONEKbaRETROFLEX HOOKbaSTROKEbg AND RETROFLEX HOOK",
    "baTILDEbf BELOWuNSULAR DbbFbbGbbRbbSbbTvVERTED ALPHAbcOEuOTAx WITH STROKEwIFIED EuStJ",
    "u WITH CARONbbIRCUMFLEXbbROSSED-TAILbaSTROKEtKu WITH ACUTEbaCARONbbEDILLAbaDESCENDER",
    "bbIAGONAL STROKEbbOT BELOWbaHOOKbaLINE BELOWbaOBLIQUE STROKEbaPALATAL HOOKbaSTROKE",
    "bg AND DIAGONAL STROKEuRAtLu WITH ACUTEbaBARbbELTbe AND PALATAL HOOKbaCARONbbEDILLA",
    "bbIRCUMFLEX BELOWbbURLbaDOT BELOWbj AND MACRONbcUBLE BARbhMIDDLE TILDEbaFISHHOOK",
    "baHIGH STROKEbaINVERTED LAZY SbaLINE BELOWbaMIDDLE DOTbhRINGbhTILDEbaPALATAL HOOK",
    "baRETROFLEX HOOKbo AND BELTbaSTROKEuAMBDA WITH STROKEuENIS FvZHx WITH RETROFLEX HOOKuJuONG S",
    "z WITH DIAGONAL STROKEbgOT ABOVEbfHIGH STROKEuS DIGRAPHuUMuZ DIGRAPHtMu WITH ACUTE",
    "baCROSSED-TAILbaDOT ABOVEbeBELOWbaHOOKbaMIDDLE TILDEbaPALATAL HOOKuIDDLE SCOTS Sz-WELSH LL",
    "bgVuUMtNu PRECEDED BY APOSTROPHEvWITH ACUTEbaCARONbbEDILLAbbIRCUMFLEX BELOWbbROSSED-TAIL",
    "bbURLbaDESCENDERbbOT ABOVEbeBELOWbaGRAVEbaLEFT HOOKbbINE BELOWbbONG RIGHT LEGbaMIDDLE TILDE",
    "baOBLIQUE STROKEbaPALATAL HOOKbaRETROFLEX HOOKbaTILDEuJuUMtOu WITH ACUTEbaBREVEbaCARON",
    "bbIRCUMFLEXbk AND ACUTEbpDOT BELOWbpGRAVEbpHOOK ABOVEbpTILDEbaDIAERESISbj AND MACRON",
    "bbOT ABOVEbj AND MACRONbeBELOWbcUBLE ACUTEbhGRAVEbaGRAVEbaHOOK ABOVEbcRNbe AND ACUTE",
    "bjDOT BELOWbjGRAVEbjHOOK ABOVEbjTILDEbaINVERTED BREVEbaLONG STROKE OVERLAYbcOP",
    "bcW RING INSIDEbaMACRONbg AND ACUTEblGRAVEbaOGONEKbg AND MACRONbaRETROFLEX HOOKbaSTROKE",
    "bg AND ACUTEbaTILDEbf AND ACUTEbkDIAERESISbkMACRONuIuLD POLISH OuMEGAuOuPEN E",
    "z WITH RETROFLEX HOOKyOz WITH RETROFLEX HOOKbfSTROKEzEuUtPu WITH ACUTEbaDOT ABOVEbaFLOURISH",
    "baHOOKbaMIDDLE TILDEbaPALATAL HOOKbaSQUIRREL TAILbbTROKEbg THROUGH DESCENDERuHItQ",
    "u WITH DIAGONAL STROKEbaHOOKbe TAILbaSTROKE THROUGH DESCENDERuP DIGRAPHtRu ROTUNDA",
    "vWITH ACUTEbaCARONbbEDILLAbbROSSED-TAILbaDOT ABOVEbeBELOWbj AND MACRONbcUBLE GRAVEbaFISHHOOK",
    "bi AND MIDDLE TILDEbnPALATAL HOOKbaINVERTED BREVEbaLINE BELOWbbONG LEGbaMIDDLE TILDE",
    "baOBLIQUE STROKEbaPALATAL HOOKbaSTROKEbaTAILzOUT HANDLEuAMS HORNuEVERSED Cbd WITH DOTbcEbdNG",
    "bcHALF HbcKbcOPEN Ebi WITH HOOKboRETROFLEX HOOKbcR WITH FISHHOOKbcSCRIPT GuUMw ROTUNDAtS",
    "u WITH ACUTEbf AND DOT ABOVEbaCARONbf AND DOT ABOVEbbEDILLAbbIRCUMFLEXbbOMMA BELOWbbURL",
    "baDOT ABOVEbeBELOWbj AND DOT ABOVEbaHOOKbaMIDDLE TILDEbaOBLIQUE STROKEbaPALATAL HOOK",
    "baSHORT STROKE OVERLAYbbWASH TAILuAKHA YATvLTILLOuCHWAy WITH HOOKbeRETROFLEX HOOKvRIPT G",
    "bb WITH CROSSED-TAILbaRbb WITH RINGuHARP SuIDEWAYS DIAERESIZED UbcObd WITH STROKEbdPEN O",
    "bcTURNED MbcUvGMOID SuQUAT REVERSED ESHuTIRRUP RtTu WITH CARONbbEDILLAbbIRCUMFLEX BELOW",
    "bbOMMA BELOWbbURLbaDIAERESISbdGONAL STROKEbbOT ABOVEbeBELOWbaHOOKbe AND RETROFLEX HOOK",
    "baLINE BELOWbaMIDDLE TILDEbaPALATAL HOOKbaRETROFLEX HOOKbaSTROKEuAILLESS PHI",
    "uC DIGRAPH WITH CURLuESH DIGRAPHbf WITH PALATAL HOOKblRETROFLEX HOOKuH WITH STRIKETHROUGH",
    "vORNy WITH STROKEbk THROUGH DESCENDERuONE FIVEySIXyTWOvP HALF OuRESILLOuS DIGRAPH",
    "bd WITH RETROFLEX HOOKuUMvRNED AbbEbbLPHAbaDELTAbaEbaGbaHbb WITH FISHHOOKbp AND TAILbaI",
    "bbNSULAR GbaKbaLbaMbb WITH LONG LEGbaO OPEN-Obi WITH STROKEbbEbc WITH HORIZONTAL STROKE",
    "biSTROKEbbPEN EbaRbb WITH HOOKbhLONG LEGbp AND RETROFLEX HOOKbhMIDDLE TILDEbhPALATAL HOOK",
    "bhTAILbaTbb WITH CURLbaUIbaVbaWbaYbb WITH BELTuZtUu BARy WITH SHORT RIGHT LEGvWITH ACUTE",
    "baBREVEbaCARONbbIRCUMFLEXbk BELOWbaDIAERESISbj AND ACUTEboCARONboGRAVEboMACRONbkBELOW",
    "bbOT BELOWbcUBLE ACUTEbhGRAVEbaGRAVEbaHOOK ABOVEbcRNbe AND ACUTEbjDOT BELOWbjGRAVE",
    "bjHOOK ABOVEbjTILDEbaINVERTED BREVEbaLEFT HOOKbaMACRONbg AND DIAERESISbaOGONEK",
    "baRETROFLEX HOOKbbING ABOVEbaSHORT RIGHT LEGbbTROKEbaTILDEbf AND ACUTEbgBELOWuEuIuMuOuPSILON",
    "ba WITH STROKEtVu WITH CURLbaDIAGONAL STROKEbbOT BELOWbaHOOKbaPALATAL HOOKbaRIGHT HOOK",
    "baTILDEuENDuISIGOTHIC ZuOLAPUK AEbbOEbbUEuYtWu WITH ACUTEbaCIRCUMFLEXbaDIAERESISbbOT ABOVE",
    "beBELOWbaGRAVEbaHOOKbaRING ABOVEtXu WITH DIAERESISbbOT ABOVEbaLONG LEFT LEG",
    "bn AND LOW RIGHT RINGboWITH SERIFbcW RIGHT RINGbaPALATAL HOOKtYu WITH ACUTEbaCIRCUMFLEX",
    "baDIAERESISbbOT ABOVEbeBELOWbaGRAVEbaHOOKbe ABOVEbaLOOPbaMACRONbaRING ABOVEbaSHORT RIGHT LEG",
    "bbTROKEbaTILDEuOGHtZu WITH ACUTEbaCARONbbIRCUMFLEXbbURLbaDESCENDERbbOT ABOVEbeBELOWbaHOOK",
    "baLINE BELOWbaMIDDLE TILDEbaPALATAL HOOKbaRETROFLEX HOOKbaSTROKEbbWASH TAILnIGATURE FFxIxLwI",
    "wLvIJvLONG S TvOEvSThUBSCRIPT SMALL LETTER AbdEbdHbdIbdJbdKbdLbdMbdNbdObdPbdRbdSbeCHWAbdTbdU",
    "bdVbdXbEAF FLUTTERING IN WINDeY GREENcDGER",
    "cFT AND LOWER AND RIGHT TRIANGULAR THREE QUARTERS BLOCKpONE EIGHTH BLOCK",
    "jRIGHT DOUBLE TURNSTILEpTACKqRIANGULAR HALF BLOCK",
    "jUPPER AND RIGHT TRIANGULAR THREE QUARTERS BLOCKpONE EIGHTH BLOCKhGER BUBBLEiLE BRACKET",
    "s WITH DOTgRC LESS-THAN BRACKEThROW WITH CIRCLED PLUSqSMALL CIRCLE",
    "fBARB DOWN RIGHT BARB DOWN HARPOONbaUP HARPOONkUP RIGHT BARB DOWN HARPOONyUP HARPOON",
    "gLACK LENTICULAR BRACKETlTORTOISE SHELL BRACKETfCEILINGgLOSED ENTRYgORNER BRACKET",
    "gURLY BRACKETs LOWER HOOKtMIDDLE PIECEtUPPER HOOKfDOTTED SUBSTITUTION BRACKET",
    "hUBLE ANGLE BRACKETmPARENTHESISmQUOTATION MARKmWIGGLY FENCEfFISH TAILhVE EIGHTHS BLOCKgLOOR",
    "fHALF BLACK CIRCLEqSTARmOCKkCIRCLEq WITH DOTwFOUR DOTSwTHREE DOTSxWO DOTSkFOLDER",
    "kINVERSE MEDIUM SHADE AND RIGHT HALF BLOCKkMEDIUM SHADEkRUNNING MANhND TELEPHONE RECEIVER",
    "fLOW PARAPHRASE BRACKETgUGGAGEfMULTIMAPfNORMAL FACTOR SEMIDIRECT PRODUCTfONE EIGHTH BLOCK",
    "jQUARTER BLOCKgUTER JOINfPARENTHESISq EXTENSIONrLOWER HOOKrUPPER HOOK",
    "fRAISED OMISSION BRACKETgIGHT ARROWq THROUGH SMALL CIRCLErWITH DOUBLE VERTICAL STROKEwSTROKE",
    "wVERTICAL STROKElBLACK ARROWlDOUBLE ARROWx WITH STROKEbdVERTICAL STROKElOPEN-HEADED ARROW",
    "lSANS-SERIF ARROWlTRIANGLE-HEADED ARROWlWAVE ARROWmHITE ARROWfS-SHAPED BAG DELIMITER",
    "gEMIDIRECT PRODUCThVEN EIGHTHS BLOCKgIDEWAYS U BRACKEThNGLE QUOTATION MARKgPEECH BUBBLE",
    "gQUARE BRACKETt EXTENSIONuLOWER CORNERuUPPER CORNERuWITH DOUBLE STROKEzQUILLzSTROKE",
    "zTICK IN BOTTOM CORNERbhTOP CORNERzUNDERBARgUBSTITUTION BRACKETfTACK",
    "gHIRD WHITE RIGHT POINTING INDEXhOUGHT BUBBLEhREE EIGHTHS BLOCKlQUARTERS BLOCK",
    "gORTOISE SHELL BRACKETgRANSPOSITION BRACKEThIANGLE BESIDE VERTICAL BAR",
    "lULAR ONE QUARTER BLOCKfVERTICAL BAR WITH QUILLpOX LINEfWHITE CORNER BRACKETmURLY BRACKET",
    "lLENTICULAR BRACKETlPARENTHESISlSQUARE BRACKETlTORTOISE SHELL BRACKETgIGGLY FENCE",
    "gRITING HANDe-FACING ARMENIAN ETERNITY SIGNmFISTmSVASTI SIGNx WITH DOTS",
    "fHANDED INTERLACED PENTAGRAMfPOINTING ANGLE BRACKEToCURVED ANGLE BRACKET",
    "oDOUBLE ANGLE QUOTATION MARKoMAGNIFYING GLASSfSHADED WHITE RIGHTWARDS ARROW",
    "gIDE ARC ANTICLOCKWISE ARROWfTO-RIGHT EMBEDDINGoISOLATEoMARKoOVERRIDEeWARDS ARROW",
    "p ABOVE ALMOST EQUAL TOwREVERSE ALMOST EQUAL TObeTILDE OPERATORwSHORT RIGHTWARDS ARROW",
    "wTILDE OPERATORrND UPPER AND LOWER ONE EIGHTH BLOCKqFROM BARy TO BLACK DIAMOND",
    "qOVER RIGHTWARDS ARROWqTHROUGH LESS-THANySUBSETyXrO BARw OVER RIGHTWARDS ARROW TO BAR",
    "uLACK DIAMONDqWITH DOTTED STEMxUBLE VERTICAL STROKEvEQUILATERAL ARROWHEADvHOOK",
    "vLARGE TRIANGLE ARROWHEADwOOPvMEDIUM TRIANGLE ARROWHEADvNOTCHED TAILvPLUS BELOW",
    "vSMALL EQUILATERAL ARROWHEADbbTRIANGLE ARROWHEADwTROKEvTAILz WITH DOUBLE VERTICAL STROKE",
    "bfVERTICAL STROKEwIP DOWNWARDSzUPWARDSvVERTICAL STROKEp-TAIL",
    "kBACK-TILTED SHADOWED WHITE ARROWlLACK ARROWqCIRCLED WHITE ARROWlOTTOM-SHADED WHITE ARROW",
    "kCOMPRESSED ARROWkDASHED ARROWlOUBLE ARROWw FROM BARxWITH STROKEbcVERTICAL STROKEw-TAIL",
    "rDASH ARROWkFINGER-POST ARROWlRONT-TILTED SHADOWED WHITE ARROWkHAND",
    "mRPOON OVER RIGHTWARDS HARPOONsWITH BARB DOWN ABOVE RIGHTWARDS HARPOON WITH BARB DOWN",
    "bhBELOW LONG DASHbhFROM BARbhTO BARbgWARDSbcUP ABOVE LEFTWARDS HARPOON WITH BARB DOWN",
    "bmONG DASHblRIGHTWARDS HARPOON WITH BARB UPbfFROM BARbfTO BARbeWARDSlEAVY ARROW",
    "qCOMPRESSED ARROWkLEFT-SHADED WHITE ARROWkOPEN-HEADED ARROWkPAIRED ARROWSkQUADRUPLE ARROW",
    "kRIGHT-SHADED WHITE ARROWlOCKETkSANS-SERIF ARROWlQUARED ARROWnIGGLE ARROW",
    "kTOP SHADED WHITE ARROWlRIANGLE ARROWHEADs-HEADED ARROW",
    "bf OVER RIGHTWARDS TRIANGLE-HEADED ARROWbgTO BARbgWITH BOLD SHAFTblDOUBLE HORIZONTAL STROKE",
    "bsVERTICAL STROKEblHEAVY SHAFTblLONG TIP DOWNWARDSbuUPWARDSblMEDIUM SHAFTblNARROW SHAFT",
    "blVERY HEAVY SHAFTbaDASHED ARROWbaPAIRED ARROWSnPLE ARROWrDASH ARROWlWO HEADED ARROW",
    "n-HEADED ARROW FROM BARbbWITH DOUBLE VERTICAL STROKEbgTAILbk WITH DOUBLE VERTICAL STROKE",
    "bqVERTICAL STROKEbhRIANGLE ARROWHEADSbgVERTICAL STROKEvTRIPLE DASH ARROWkWAVE ARROW",
    "lHITE ARROWv WITHIN TRIANGLE ARROWHEADcGcMONcOdPARDcPCHA CONSONANT SIGN KxANGwLwMwNxYIN-DOwP",
    "wRwThDIGIT EIGHTnFIVEoOURnNINEnONEnSEVENoIXnTHREEoWOnZEROhLETTER AoBApLAoCApHAoDApDApZAoFA",
    "pLAoGApLAoHApLAoJAoKApHApLAoLAoMApLAoNApGApYAoPApHApLAoRAoSApHAoTApHApSAqHApTAqHAoVAoWAoYA",
    "hPUNCTUATION CER-WAtNYET THYOOM TA-ROLtTA-ROLuSHOOKz CER-WAhSIGN NUKTAmRAN",
    "iUBJOINED LETTER RAyYAhVOWEL SIGN AAsEsIsOtOsUtU",
    "cSS-THAN ABOVE DOUBLE-LINE EQUAL ABOVE GREATER-THANqGREATER-THAN ABOVE DOUBLE-LINE EQUAL",
    "qLEFTWARDS ARROWqSIMILAR ABOVE GREATER-THANyOR EQUAL",
    "rLANTED EQUAL ABOVE GREATER-THAN ABOVE SLANTED EQUALlND NOT APPROXIMATE",
    "oSINGLE-LINE NOT EQUAL TOkBUT NOT EQUAL TOvIVALENT TOkCLOSED BY CURVEz ABOVE SLANTED EQUAL",
    "kEQUAL TO OR GREATER-THANkOR APPROXIMATEnEQUAL TOqIVALENT TOnGREATER-THANnSLANTED EQUAL TO",
    "bd WITH DOT ABOVEbs RIGHTbnINSIDElVER EQUAL TOkSIGNkWITH CIRCLE INSIDEpDOT",
    "pQUESTION MARK ABOVEcVEL SLIDERbFbIBRAcGATURE OPEN ET ORNAMENTdHT CHECK MARK",
    "gEIGHT SPOKED ASTERISKgFIVE POINTED BLACK STARlSPOKED ASTERISKhOUR POINTED BLACK CUSPzSTAR",
    "gGREEK CROSSgLEFT TORTOISE SHELL BRACKET ORNAMENTgRAILhIGHT TORTOISE SHELL BRACKET ORNAMENT",
    "gSALTIREhHADEhIX SPOKED ASTERISKgTHREE POINTED BLACK STARhWELVE POINTED BLACK STAR",
    "gVERTICAL BARgWHITE SQUAREfNINGj MOODo BUBBLEcMBU DIGIT EIGHTmFIVEnOURmNINEmONEmSEVENnIX",
    "mTHREEnWOmZEROgEXCLAMATION MARKgLETTER BAoHAnCAoHAnDAoHAnGAoHAoYANnHAnJAoHAnKAoHAnLAnMAnNA",
    "oGAnPAoHAnRAnSAoHAoSAnTAoHAoRAnWAnYApNgQUESTION MARKgSIGN KEMPHRENGlLOOlMUKPHRENGlSA-I",
    "hMALL LETTER ANUSVARAtKAtLAtMAtNAuGAtPAtRAtTAhUBJOINED LETTER RAxWAxYAgVOWEL SIGN AsIsUrEsE",
    "rIrOsOrUl-CARRIER LETTERdITED LIABILITY SIGNcNE FEEDfINTEGRATION NOT INCLUDING THE POLE",
    "rWITH RECTANGULAR PATH AROUND POLEwSEMICIRCULAR PATH AROUND POLEfSEPARATORfTABULATIONp SET",
    "eAR A SIGN A028Bp100-102q20Bq31Cp301r2r3r4r5r6r7r8r9AsBsCq10r1r2r3AsBsCr4r5r6r7r8r9q20r1r2r3",
    "r4r5r6r7r8r9q30r1r2r3r4r5r6r7r8r9q40r1r2r3r4r5r6r7r8r9q50r1r2r3r4r5r6r7r8r9q60r1r2r3r4r5r6r7",
    "r8r9q70r1p400-VASr1-VASr2-VASr3-VASr4-VASr5-VASr6-VASr7-VASr8-VASr9-VASq10-VASr1-VASr2-VAS",
    "r3-VASr4-VASr5-VASr6-VASr7-VASr8-VASp501r2r3r4r5r6r8r9q10r1r2r3r5r6q20r1r3r4r5r6r7r8r9q30r1",
    "r2r4r5r6r7r8r9q40r1r2r5r7r8r9q50r1r2r3r4r5r6r7r9q63r4r5r6r8r9q70r1r2r3r4r5r6r7r8r9q80r1r2r3",
    "r4r5r6r7r8r9q91r2r4r5r6r8p600r1r2r3r4r6r8r9q10r1r2r3r4r5r6r7r8r9q20r1r2r3r4r6r7r8r9q34r7r8",
    "q40r2r3r4r5r6r8r9q51r2r3r4r5r6r7r8r9q60r1r2r3r4p701 Ar2 Br3 Dr4 Er5 Fr6 Hr7 Jr8 Kr9 Ls-2 L2",
    "t3 L3t4 L4t6 L6q10 Wr1 Xr2 Yr3 OMEGAr4 ABBr5 BBr7 DDq26 EYYYq32 JEp800r1r2r3r4r5r6r7pB001s2",
    "s3s4s5s6s7s8s9r10s1s3s6s7r20s1tFtMs2tFtMs3tMs4s6s7s8s9r30s1s4s7s8s9r40s1s4s5s6s7s8s9r50s1s3",
    "s4s5s6s7s8s9r60s1s5s6s7s9r70s3s4s6s7s8s9r80s1s2s5s6s7q118r20s2s3r31AtBr64r71r80s8r91",
    "hB IDEOGRAM B100 MANv2 WOMANv4 DEERv5 EQUIDwF MAREwM STALLIONv6F EWEwM RAMv7F SHE-GOAT",
    "wM HE-GOATv8F SOWwM BOARv9F COWwM BULLu20 WHEATv1 BARLEYv2 OLIVEv3 SPICEv5 CYPERUSu30 OIL",
    "v1 WINEv2u40 BRONZEv1 GOLDv2v5 WOOLv6u50v1 HORNv2v3v4v7v8v9 CLOTHu60v1v2 GARMENTv3 ARMOURv4",
    "v5v6v7v8v9u70v1v2v3 MONTHv4v6 TREEv7v8v9u80v1v2v3v4v5v9u90v1 HELMETt220 FOOTSTOOLv5 BATHTUB",
    "u30 SPEARv1 ARROWv2v3 SWORDv4v6u40 WHEELED CHARIOTv1 CHARIOTv2 CHARIOT FRAMEv3 WHEELv5v6v8v9",
    "u51v2v3v4 DARTv5v6v7v8v9sVESSEL B155ba200bc1bc2bc3bc4bc5bc6bc7bc8bc9bb10bc1bc2bc3bc4bc5bc6",
    "bc7bc8bc9bb21bc2bc6bc7bc8bc9bb50ba305jMONOGRAM B127 KAPOv8 KANAKOu33 AREPAv5 MERIu56 TURO2",
    "t247 DIPTEjSYLLABLE B001 DAv2 ROv3 PAv4 TEv5 TOv6 NAv7 DIv8 Av9 SEu10 Uv1 POv2 SOv3 MEv4 DO",
    "v5 MOv6 QAv7 ZAu20 ZOv1 QIv3 MUv4 NEv5 A2v6 RUv7 REv8 Iv9 PU2u30 NIv1 SAv2 QOv3 RA3v6 JO",
    "v7 TIv8 Ev9 PIu40 WIv1 SIv2 WOv3 A3v4 KEv5 DEv6 JEv8 NWAu50 PUv1 DUv2 NOv3 RIv4 WAv5 NUv7 JA",
    "v8 SUv9 TAu60 RAv1 Ov2 PTEv5 JUv6 TA2v7 KIv8 RO2v9 TUu70 KOv1 DWEv2 PEv3 MIv4 ZEv5 WEv6 RA2",
    "v7 KAv8 QEu80 MAv1 KUv5 AUv7 TWEu90 DWOv1 TWOlMBOL B018t9s22s34s47t9s56s63t4s79s82t3t6t9",
    "dK SYMBOLeED PAPERCLIPScON FACEcPSeTICKcRA SIGNcSU LETTER AnEmBAmCAnHAmDAnZAmEnUmFAmGAnHAmHA",
    "nHAmImJAmKAnHAmLAmMAmNAnGAmOnEmPAnHAmSAnHAmTAnHAnONE MYA BOvCYAvJEUvNAvTIrNA POnSAoHAmUnEnH",
    "mWAmXAmYAnHAmZAnHAfPUNCTUATION COMMArFULL STOPcVRE TOURNOIS SIGNcZARDbLAMAbOBSTERcCK",
    "e WITH INK PENeING-SHIFT ONEoZEROcGICAL ANDl WITH DOT ABOVEtUBLE OVERBARyUNDERBAR",
    "rHORIZONTAL DASHrMIDDLE STEMrUNDERBARiORk OVERLAPPING LOGICAL ANDlWITH DOT ABOVE",
    "sUBLE OVERBARxUNDERBARqHORIZONTAL DASHqMIDDLE STEMcLLIPOP",
    "cNG DASH FROM LEFT MEMBER OF DOUBLE VERTICALgIVISIONgRUMfLEFT RIGHT ARROWqDOUBLE ARROWkTACK",
    "jWARDS ARROWu FROM BARpDOUBLE ARROWbb FROM BARpSQUIGGLE ARROWfRIGHT TACKkWARDS ARROW",
    "v FROM BARqDOUBLE ARROWbc FROM BARqSQUIGGLE ARROWcTION BOTTLEdUScUDLY CRYING FACEcVE HOTEL",
    "fLETTERcW ASTERISKeBATTERYfRIGHTNESS SYMBOLeDOUBLE PRIME QUOTATION MARKeKAVYKAk WITH DOT",
    "eLINEdER BLADE SCISSORSgFIVE EIGHTHS BLOCKgHALF BLOCKlCIRCLElINVERSE WHITE CIRCLE",
    "lMEDIUM SHADEgLEFT BALLPOINT PENmLOCK DIAGONAL LOWER MIDDLE LEFT TO LOWER CENTREcbRIGHT",
    "baUPPER CENTRE TO LOWER MIDDLE RIGHTbwRIGHTbqUPPER MIDDLE RIGHTbgLEFT TO LOWER CENTRE",
    "buMIDDLE RIGHTboUPPER MIDDLE RIGHTbgMIDDLE LEFT TO LOWER CENTREcbMIDDLE RIGHTcbRIGHTlCRAYON",
    "lFOUNTAIN PENlPAINTBRUSHmENCILlQUADRANT CIRCULAR ARClSEMICIRCULAR ANTICLOCKWISE ARROW",
    "lTRIANGLErULAR MEDIUM SHADEgONE EIGHTH BLOCKkQUARTER BLOCK",
    "gRIGHT BLOCK DIAGONAL LOWER CENTRE TO LOWER MIDDLE RIGHTbrUPPER MIDDLE RIGHTbxRIGHT",
    "bhLEFT TO LOWER MIDDLE RIGHTbpUPPER CENTREbvMIDDLE RIGHTbhMIDDLE LEFT TO UPPER CENTRE",
    "ccMIDDLE RIGHTccRIGHTbbUPPER MIDDLE LEFT TO UPPER CENTREccRIGHTmCORNER WITH DOT",
    "mDROP-SHADOWED WHITE SQUAREmPENCILmQUADRANT CIRCULAR ARCmSEMICIRCULAR CLOCKWISE ARROW",
    "nHADOWED WHITE CIRCLEbbSQUAREmTRIANGLEsULAR MEDIUM SHADEgSEVEN EIGHTHS BLOCK",
    "gTHREE EIGHTHS BLOCKmQUARTERS BLOCKhRIANGULAR ONE QUARTER BLOCKcZENGE",
    "h DIVIDED BY HORIZONTAL RULEbREcIcMcObUGGAGEcNGSbYCIAN LETTER ApNoBpHoDoEpNoGoHoIoJoKpKoLoM",
    "pMoNpNoPoQoRoSoTpHpToUoWoXoZcDIAN LETTER ApNoBoCoDoEpNoFoGoIoKoLpYoMoNpNoOoQoRoSpSoTpToUoVoY",
    "hTRIANGULAR MARKcING FACE"]

end NetPlan.Text.CharacterName
