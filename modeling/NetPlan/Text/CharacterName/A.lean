/-!
# Names of characters: A

The names of characters that start with the letter A, as rows of a table.
-/

namespace NetPlan.Text.CharacterName

/-- The names that start with A. -/
def rowsA : List String :=
  ["aABACUSbC CURRENTcCORDIONeUNT OFcKdNOWLEDGEcTIVATE ARABIC FORM SHAPINGjSYMMETRIC SWAPPING",
    "cUTE ACCENThNGLEbDDRESSED TO THE SUBJECTcHESIVE BANDAGEcI SHAKTIcLAM ALIF LENGTHENER",
    "gCAPITAL LETTER ALIFvBAwHEvCHIvDAALIwHAvEvFAvGAwBEvHAvIvJIIMvKAFwHAwPOvLAAMvMIIMvNHAwUNwYAvO",
    "vPEvQAAFvRAvSHAwINNYIIYHEvTUvUvVAvWAWvYAwHEvZALhONSONANT MODIFIERgDIGIT EIGHTmFIVEnOURmNINE",
    "mONEmSEVENnIXmTHREEnWOmZEROgGEMINATE CONSONANT MODIFIERnION MARKgHAMZA",
    "gINITIAL EXCLAMATION MARKoQUESTION MARKgNASALIZATION MARKhUKTAgSMALL LETTER ALIFtBAuHEtCHI",
    "tDAALIuHAtEtFAtGAuBEtHAtItJIIMtKAFuHAuPOtLAAMtMIIMtNHAuUNuYAtOtPEtQAAFtRAtSHAuINNYIIYHEtTUtU",
    "tVAtWAWtYAuHEtZALgVOWEL LENGTHENERcMETOSdISSION TICKETScULTbEGEAN CHECK MARK",
    "hDRY MEASURE FIRST SUBUNIThLIQUID MEASURE FIRST SUBUNIThMEASURE SECOND SUBUNITpTHIRD SUBUNIT",
    "hNUMBER EIGHTt HUNDREDuTHOUSANDtYu THOUSANDoFIFTYt THOUSANDqVEs HUNDREDtTHOUSANDpORTY",
    "t THOUSANDqURs HUNDREDtTHOUSANDoNINEs HUNDREDtTHOUSANDsTYu THOUSANDoONEr HUNDREDsTHOUSAND",
    "oSEVENt HUNDREDuTHOUSANDtTYv THOUSANDpIXr HUNDREDsTHOUSANDrTYt THOUSANDoTENr THOUSANDpHIRTY",
    "u THOUSANDqREEt HUNDREDuTHOUSANDpWENTYu THOUSANDqOr HUNDREDsTHOUSANDhWEIGHT BASE UNIT",
    "oFIRST SUBUNITpOURTH SUBUNIToSECOND SUBUNIToTHIRD SUBUNITiORD SEPARATOR DOTwLINE",
    "cRIAL TRAMWAYbFGHANI SIGNbHOM CONSONANT SIGN MEDIAL LAbcIGATING RAbbRAfDIGIT EIGHTlFIVEmOUR",
    "lNINElONElSEVENmIXlTHREEmWOlZEROfLETTER AnLTERNATE BAwGAwTAmBAnHAmCAnHAmDAnDAoHAnHAmGAnHAmHA",
    "mJAnHAmKAnHAmLAnLAmMAmNAnGAnNAnYAmPAnHAmRAmSAmTAnHAnTAoHAfNUMBER TENnWENTYfSIGN KILLERkRULAI",
    "kSECTIONlMALL SECTIONgYMBOL VIfVOWEL SIGN ArArIrMrWqEqIrIqOqUrUbIRPLANEi ARRIVINGjDEPARTURE",
    "bKTIESELSKABbLARM CLOCKcCHEMICAL SYMBOL FOR AIRxLEMBICyKALIbc-2yUMxMALGAMxNTIMONY ORE",
    "xQUA REGIAbg-2bbVITAEbg-2baFORTISxRSENICxSHESxURIPIGMENTwBATH OF MARYbeVAPOURSxISMUTH ORE",
    "xLACK SULFURxORAXbb-2bc3xRICKwCADUCEUSyLXyPUT MORTUUMxINNABARxOPPER ANTIMONIATEbdORE",
    "xROCUS OF COPPERbm-2bgIRONyUCIBLEbe-2bf3bf4bf5wDAY-NIGHTxISSOLVEbe-2zTILLwEARTHwFIREwGOLDxUM",
    "wHALF DRAMbbOUNCExORSE DUNGyURwIRON OREbe-2ba-COPPER OREwLEAD ORExODESTONEwMARCASITE",
    "xERCURY SUBLIMATEbn-2bo3xONTHwNIGHTyTREwOILwPHILOSOPHERS SULFURxOT ASHESyWDERbcED BRICK",
    "xRECIPITATExURIFYyTREFACTIONwQUICK LIMEzNTESSENCEwREALGARbd-2yGULUSbd OF ANTIMONYbp-2bhIRON",
    "bd-2be3be4yTORTxOCK SALTbf-2wSAL-AMMONIACzTba OF ANTIMONYbeCOPPER ANTIMONIATExCEPTER OF JOVE",
    "xILVERxOAPxPIRITxTARRED TRIDENTyRATUM SUPER STRATUMbr-2xUBLIMATE OF ANTIMONYbjCOPPER",
    "bjSALT OF ANTIMONYbrCOPPERbeIONyLFURwTARTARbc-2xIN OREzCTURExRIDENTxUTTYwURINEwVERDIGRIS",
    "xINEGARbd OF ANTIMONYbd-2be3yTRIOLbd-2wWATERyXcEF SYMBOLdMBICdRTcIEN MONSTER",
    "cL AROUND-PROFILEeEQUAL TOcMdOST EQUAL OR EQUAL TOnTOp WITH CIRCUMFLEX ACCENT",
    "cTERNATE ONE-WAY LEFT WAY TRAFFICiIVE KEY SYMBOLbMALGAMATION OR COPRODUCTcBULANCE",
    "cERICAN FOOTBALLcPERSANDdHORAbNATOLIAN HIEROGLYPH A001y2y3y4y5y6y7y8y9x10zAy1y2y3y4y5y6y7y8",
    "y9x20y1y2y3y4y5y6zAy7y8y9x30y1y2y3y4y5y6y7y8y9zAx40y1zAy2y3y4y5zAy6zAzBy7y8y9x50y1y2y3y4y5y6",
    "y7y8y9x60y1y2y3y4y5y6zAzBzCy7y8y9x70y1y2y3y4y5y6y7y8y9x80y1y2y3y4y5y6y7y8y9x90y1y2y3y4y5y6y7",
    "zAy8zAy9w100zAy1zAy2zAy3y4zAzBzCy5zAzBy6y7zAzBzCy8y9x10zAzBy1y2y3y4y5zAy6y7y8y9x20y1y2y3y4y5",
    "zAy6y7y8y9x30y1y2y3y4y5zAy6y7y8y9x40y1y2y3y4y5y6y7y8y9x50y1y2y3y4y5y6y7y8y9x60y1y2y3y4y5y6y7",
    "y8y9x70y1y2y3y4y5y6y7y8y9x80y1y2y3y4y5y6y7y8y9x90y1y2y3y4y5y6y7y8y9w200y1y2zAzBy3y4y5y6y7zA",
    "y8y9zAx10y1y2y3y4y5zAy6zAy7y8y9x20y1y2y3y4y5y6y7zAy8y9x30y1y2y3y4y5y6y7y8y9x40y1y2y3y4y5y6y7",
    "y8y9x50y1y2y3y4y5y6y7y8y9x60y1y2y3y4y5y6y7zAy8y9x70y1y2y3y4y5y6y7y8y9x80y1y2y3y4y5y6y7y8y9zA",
    "x90y1y2y3y4zAy5y6y7y8y9zAw300y1y2y3y4y5y6y7y8y9zAx10y1y2y3y4y5y6y7y8y9x20y1y2y3y4y5y6y7y8y9",
    "zAx30y1y2AzBzCy3y4y5y6zAzBzCy7y8y9x40y1y2y3y4y5y6y7y8y9x50y1y2y3y4y5y6y7y8y9zAx60y1y2y3y4zA",
    "y5y6y7y8zAy9x70y1zAy2y3y4y5y6y7y8y9x80y1zAy2y3 RA OR RIzAy4y5y6zAy7y8y9x90y1y2y3 EIGHTy4y5y6",
    "y7y8y9w400y1y2y3y4y5y6y7y8y9x10 BEGIN LOGOGRAM MARKzA END LOGOGRAM MARKy1y2y3y4y5y6y7y8y9x20",
    "y1y2y3y4y5y6y7y8y9x30y1y2y3y4y5y6y7y8y9x40y1y2y3y4y5y6y7y8y9x50zAy1y2y3y4y5y6y7zAy8y9x60y1y2",
    "y3y4y5y6y7y8y9x70y1y2y3y4y5y6y7y8y9x80y1y2y3y4y5y6y7y8y9x90y1y2y3y4y5y6y7w501y2y3y4y5y6y7y8",
    "y9x10y1y2y3y4y5y6y7y8y9x20y1y2y3y4y5y6y7y8y9x30fMICAL HEARTcCHORcD WITH DOTcGER SYMBOLdLE",
    "f WITH S INSIDElUNDERBARdRY FACEdSTROM SIGNdUISHED FACEcKHcTdENNA WITH BARS",
    "dICLOCKWISE CLOSED CIRCLE ARROWpONTOUR INTEGRALoDOWNWARDS AND UPWARDS OPEN CIRCLE ARROWS",
    "oGAPPED CIRCLE ARROWoINTEGRATIONoOPEN CIRCLE ARROWoTOP SEMICIRCLE ARROW",
    "pRIANGLE-HEADED BOTTOM U-SHAPED ARROWbeLEFT U-SHAPED ARROWbeOPEN CIRCLE ARROW",
    "beRIGHT U-SHAPED ARROWbeTOP U-SHAPED ARROWbPCcL FUNCTIONAL SYMBOL ALPHAbb UNDERBAR",
    "wBACKSLASH BARwCIRCLE BACKSLASHbdDIAERESISbdJOTbdSTARbfILEbdUNDERBARxOMMA BARwDEL DIAERESIS",
    "baSTILEbaTILDEzTA STILEbcUNDERBARxIAMOND UNDERBARxOWN CARET TILDEbbSHOE STILEbbTACK JOT",
    "bgUNDERBARbaWARDS VANEwEPSILON UNDERBARwGREATER-THAN DIAERESISwI-BEAMxOTAba UNDERBAR",
    "wJOT DIAERESISbaUNDERBARwLEFT SHOE STILEbaWARDS VANEwOMEGAbb UNDERBARwQUADba BACKSLASH",
    "bbCIRCLEbcOLONbbDELbeTAbcIAMONDbdVIDEbcOWN CARETbfWARDS ARROWbbEQUALbbGREATER-THANbbJOT",
    "bbLEFTWARDS ARROWbdSS-THANbbNOT EQUALbbQUESTIONbbRIGHTWARDS ARROWbbSLASHbbUP CARET",
    "bdWARDS ARROWyOTE QUADbcUNDERBARwRHOxIGHTWARDS VANEwSEMICOLON UNDERBARxLASH BARxQUISH QUAD",
    "xTAR DIAERESISyILE TILDEwTILDE DIAERESISwUP CARET TILDEzSHOE JOTzTACK DIAERESISbeJOT",
    "beOVERBARyWARDS VANEwZILDEcOLLONdSTROPHEcPLICATION PROGRAM COMMANDdROACHES THE LIMIT",
    "fXIMATELY BUT NOT ACTUALLY EQUAL TOoEQUAL OR EQUAL TOuTOw OR THE IMAGE OFbQUARIUS",
    "bRABIC BASELINE ROUND DOThCOMMAiURLY DAMMAsTANnFATHAsTANnKASRAsTANhDAMMAm ISOLATED FORM",
    "nMEDIAL FORMnWITH DOTmTANp ISOLATED FORMjTE SEPARATORiECIMAL SEPARATORiISPUTED END OF AYAH",
    "iOUBLE RIGHT ARROWHEAD ABOVEbj WITH DOTnD MADDAhEMPTY CENTRE HIGH STOPuLOW STOPiND OF AYAH",
    "oTEXT MARKhFATHAm ISOLATED FORMnMEDIAL FORMnWITH DOT ABOVEsRINGsTWO DOTSmTANp ISOLATED FORM",
    "iIVE POINTED STARiOOTNOTE MARKERiULL STOPhHALF MADDA OVER MADDAjMZA ABOVEnBELOW",
    "hINVERTED DAMMAhKASRAm ISOLATED FORMnMEDIAL FORMnWITH DOT BELOWmTANp ISOLATED FORM",
    "hLARGE CIRCLE BELOWnROUND DOT ABOVExBELOWxINSIDE CIRCLE BELOWiEFT ARROWHEAD ABOVEwBELOW",
    "jTTER AEpFRICAN FEHwNOONwQAFz WITH THREE DOTS ABOVEpINr FINAL FORMsINITIAL FORMtSOLATED FORM",
    "sMEDIAL FORMsWITH THREE DOTS ABOVEbiBELOWbiPOINTING DOWNWARDS ABOVEyWO DOTS ABOVE",
    "bgVERTICALLY ABOVEpLEFs FINAL FORMtISOLATED FORMtMAKSURAba FINAL FORMbbISOLATED FORMtWASLA",
    "y FINAL FORMzISOLATED FORMuITH ATTACHED BOTTOM RIGHT KASRAbz AND DOT ABOVEceLEFT RINGbhFATHA",
    "bhKASRAbhLEFT HAMZAbmROUND DOTbhRIGHT HAMZAbnROUND DOTbiOUND DOT ABOVEbrBELOW",
    "bhTOP RIGHT FATHAbw AND DOT ABOVEcbLEFT RINGyDOT ABOVE",
    "yEXTENDED ARABIC-INDIC DIGIT THREE ABOVEcbWO ABOVEyHAMZA ABOVEbj FINAL FORMbkISOLATED FORM",
    "beBELOWbj FINAL FORMbkISOLATED FORMyLEFT MIDDLE STROKEyMADDA ABOVEbj FINAL FORM",
    "bkISOLATED FORMyRIGHT MIDDLE STROKEbr AND DOT ABOVEbwLEFT RINGyWAVY HAMZA ABOVEbjBELOWoBEEH",
    "s FINAL FORMtINITIAL FORMuSOLATED FORMtMEDIAL FORMqHr FINAL FORMsINITIAL FORMtSOLATED FORM",
    "sMEDIAL FORMsWITH DOT BELOW AND THREE DOTS ABOVExHAMZA ABOVExINVERTED SMALL V BELOW",
    "xSMALL MEEM ABOVEbdVbe BELOWxTHREE DOTS HORIZONTALLY BELOWbiPOINTING UPWARDS BELOW",
    "ce AND TWO DOTS ABOVEyWO DOTS BELOW AND DOT ABOVErEHt FINAL FORMuINITIAL FORMvSOLATED FORM",
    "uMEDIAL FORMoDADr FINAL FORMsINITIAL FORMtSOLATED FORMsMEDIAL FORMsWITH DOT BELOWqHAL",
    "t FINAL FORMuISOLATED FORMqLr FINAL FORMsISOLATED FORMsWITH DOT BELOWbg AND SMALL TAH",
    "xFOUR DOTS ABOVExINVERTED SMALL V BELOWbgVxRINGxTHREE DOTS ABOVE DOWNWARDSbiBELOW",
    "yWO DOTS VERTICALLY BELOW AND SMALL TAHpDAHALu FINAL FORMvISOLATED FORMrLs FINAL FORM",
    "tISOLATED FORMpOTLESS BEHwFEHwQAFpULr FINAL FORMsISOLATED FORMpYEHs FINAL FORMtINITIAL FORM",
    "uSOLATED FORMtMEDIAL FORMoEp FINAL FORMqINITIAL FORMrSOLATED FORMqMEDIAL FORMoFARSI YEH",
    "x FINAL FORMyINITIAL FORMzSOLATED FORMyMEDIAL FORM",
    "yWITH EXTENDED ARABIC-INDIC DIGIT FOUR BELOWcfTHREE ABOVEcgWO ABOVEbdINVERTED V",
    "bdTHREE DOTS ABOVEbeWO DOTS ABOVEpEHr FINAL FORMsINITIAL FORMtSOLATED FORMsMEDIAL FORM",
    "sWITH DOT BELOWbg AND THREE DOTS ABOVEbbMOVED BELOWxTHREE DOTS BELOWbiPOINTING UPWARDS BELOW",
    "yWO DOTS BELOWoGAFr FINAL FORMsINITIAL FORMtSOLATED FORMsMEDIAL FORMsWITH INVERTED STROKE",
    "xRINGxTHREE DOTS ABOVEyWO DOTS BELOWpHAINt FINAL FORMuINITIAL FORMvSOLATED FORMuMEDIAL FORM",
    "uWITH DOT BELOWzTHREE DOTS ABOVEpRAFpUEHs FINAL FORMtINITIAL FORMuSOLATED FORMtMEDIAL FORM",
    "oHAHr FINAL FORMsINITIAL FORMtSOLATED FORMsMEDIAL FORM",
    "sWITH EXTENDED ARABIC-INDIC DIGIT FOUR BELOWxHAMZA ABOVExINVERTED SMALL V BELOW",
    "xSMALL ARABIC LETTER TAH ABOVEbwND TWO DOTSbvBELOWxTHREE DOTS ABOVEbiPOINTING UPWARDS BELOW",
    "yWO DOTS ABOVEbgVERTICAL ABOVEqMZAt ISOLATED FORMpEHr DOACHASHMEEbd FINAL FORMbeINITIAL FORM",
    "bfSOLATED FORMbeMEDIAL FORMsFINAL FORMsGOALw FINAL FORMxINITIAL FORMySOLATED FORM",
    "xMEDIAL FORMxWITH HAMZA ABOVEsINITIAL FORMtSOLATED FORMsMEDIAL FORMsWITH INVERTED V",
    "xYEH ABOVEbg FINAL FORMbhISOLATED FORMpIGH HAMZAy ALEFzWAWzYEHoJEEMs FINAL FORMtINITIAL FORM",
    "uSOLATED FORMtMEDIAL FORMtWITH THREE DOTS ABOVEbjBELOWzWO DOTS ABOVEqHr FINAL FORM",
    "sISOLATED FORMoKAFr FINAL FORMsINITIAL FORMtSOLATED FORMsMEDIAL FORMsWITH DOT ABOVEbbBELOW",
    "xRINGxTHREE DOTS BELOWyWO DOTS ABOVEqSHMIRI YEHpEHEHt FINAL FORMuINITIAL FORMvSOLATED FORM",
    "uMEDIAL FORMuWITH DOT ABOVEzSMALL VzTHREE DOTS ABOVEbkBELOWbkPOINTING UPWARDS BELOW",
    "baWO DOTS ABOVEbiVERTICALLY BELOWpHAHs FINAL FORMtINITIAL FORMuSOLATED FORMtMEDIAL FORM",
    "pIRGHIZ OEy FINAL FORMzISOLATED FORMwYUy FINAL FORMzISOLATED FORMoLAMr FINAL FORM",
    "sINITIAL FORMtSOLATED FORMsMEDIAL FORMsWITH BARxDOT ABOVEzUBLE BAR",
    "xSMALL ARABIC LETTER TAH ABOVEbdVxTHREE DOTS ABOVEbiBELOWpOW ALEFoMARKpEEMs FINAL FORM",
    "tINITIAL FORMuSOLATED FORMtMEDIAL FORMtWITH DOT ABOVEbcBELOWyTHREE DOTS ABOVEoNGq FINAL FORM",
    "rINITIAL FORMsSOLATED FORMrMEDIAL FORMqOEHt FINAL FORMuINITIAL FORMvSOLATED FORMuMEDIAL FORM",
    "pOONs FINAL FORMtGHUNNAz FINAL FORMbaISOLATED FORMtINITIAL FORMuSOLATED FORMtMEDIAL FORM",
    "tWITH DOT BELOWyINVERTED SMALL VyRINGySMALL TAHbeVyTHREE DOTS ABOVEzWO DOTS BELOWpYEH",
    "s FINAL FORMtINITIAL FORMuSOLATED FORMtMEDIAL FORMoOEq FINAL FORMrISOLATED FORMoPEH",
    "r FINAL FORMsINITIAL FORMtSOLATED FORMsMEDIAL FORMsWITH SMALL MEEM ABOVEbdVrEHt FINAL FORM",
    "uINITIAL FORMvSOLATED FORMuMEDIAL FORMoQAFr FINAL FORMsINITIAL FORMtSOLATED FORMsMEDIAL FORM",
    "sWITH DOT ABOVEbbBELOWbg AND NO DOTS ABOVExTHREE DOTS ABOVEoREHr FINAL FORMsISOLATED FORM",
    "sWITH DOT BELOWbg AND DOT ABOVExFOUR DOTS ABOVExHAMZA ABOVExINVERTED VxLOOPxRING",
    "xSMALL ARABIC LETTER TAH AND TWO DOTSbdNOON ABOVEbdVbe BELOWyTROKExTWO DOTS ABOVE",
    "bgVERTICALLY ABOVEpNOONt FINAL FORMuINITIAL FORMvSOLATED FORMuMEDIAL FORMpOHINGYA YEHpREH",
    "s FINAL FORMtISOLATED FORMoSADr FINAL FORMsINITIAL FORMtSOLATED FORMsMEDIAL FORM",
    "sWITH THREE DOTS ABOVEbiBELOWyWO DOTS BELOWpEENs FINAL FORMtINITIAL FORMuSOLATED FORM",
    "tMEDIAL FORMtWITH DOT BELOW AND DOT ABOVEyEXTENDED ARABIC-INDIC DIGIT FOUR ABOVE",
    "yFOUR DOTS ABOVEyINVERTED VySMALL ARABIC LETTER TAH AND TWO DOTSyTHREE DOTS BELOW",
    "bo AND THREE DOTS ABOVEzWO DOTS VERTICALLY ABOVEpHEENt FINAL FORMuINITIAL FORMvSOLATED FORM",
    "uMEDIAL FORMuWITH DOT BELOWpTRAIGHT WAWpUPERSCRIPT ALEFpWASH KAFoTAHr FINAL FORM",
    "sINITIAL FORMtSOLATED FORMsMEDIAL FORMsWITH DOT BELOWxTHREE DOTS ABOVEbiBELOWyWO DOTS ABOVE",
    "pCHEHt FINAL FORMuINITIAL FORMvSOLATED FORMuMEDIAL FORMuWITH DOT ABOVEzSMALL VtEH",
    "v FINAL FORMwINITIAL FORMxSOLATED FORMwMEDIAL FORMpEHr FINAL FORMsINITIAL FORMtSOLATED FORM",
    "sMARBUTAz FINAL FORMbaGOALbaISOLATED FORMtEDIAL FORMsWITH RINGxSMALL TEH ABOVEbdV",
    "xTHREE DOTS ABOVE DOWNWARDSrEHt FINAL FORMuINITIAL FORMvSOLATED FORMuMEDIAL FORMpHAL",
    "s FINAL FORMtISOLATED FORMqEHs FINAL FORMtINITIAL FORMuSOLATED FORMtMEDIAL FORMqIN YEHpTEH",
    "s FINAL FORMtINITIAL FORMuSOLATED FORMtMEDIAL FORMtWITH SMALL VsEHu FINAL FORMvINITIAL FORM",
    "wSOLATED FORMvMEDIAL FORMoUp FINAL FORMqISOLATED FORMqWITH HAMZA ABOVEbg ISOLATED FORM",
    "pIGHUR KAZAKH KIRGHIZ ALEF MAKSURA INITIAL FORMbxMEDIAL FORMoVEq FINAL FORMrISOLATED FORMqH",
    "r FINAL FORMsINITIAL FORMtSOLATED FORMsMEDIAL FORMoWAWr FINAL FORMsISOLATED FORM",
    "sWITH DOT ABOVEbbWITHINxEXTENDED ARABIC-INDIC DIGIT THREE ABOVEcaWO ABOVExHAMZA ABOVE",
    "bi FINAL FORMbjISOLATED FORMxRINGxTWO DOTS ABOVEoYEHr BARREEy FINAL FORMzISOLATED FORM",
    "zWITH EXTENDED ARABIC-INDIC DIGIT THREE ABOVEchWO ABOVEbeHAMZA ABOVEbp FINAL FORM",
    "bqISOLATED FORMsFINAL FORMsINITIAL FORMtSOLATED FORMsMEDIAL FORMsWITH HAMZA ABOVE",
    "bi FINAL FORMbjINITIAL FORMbkSOLATED FORMbjMEDIAL FORMxSMALL VxTAILyHREE DOTS BELOW",
    "yWO DOTS BELOW AND DOT ABOVEbqHAMZA ABOVEbqSMALL NOON ABOVEpUq FINAL FORMrISOLATED FORMoZAH",
    "r FINAL FORMsINITIAL FORMtSOLATED FORMsMEDIAL FORMqINs FINAL FORMtISOLATED FORM",
    "tWITH INVERTED V ABOVEiIGATURE AIN WITH ALEF MAKSURA FINAL FORMbmISOLATED FORM",
    "zJEEM INITIAL FORMbfSOLATED FORMbeWITH MEEM FINAL FORMboINITIAL FORMzMEEM INITIAL FORM",
    "bfSOLATED FORMbeWITH ALEF MAKSURA FINAL FORMbjMEEM FINAL FORMboINITIAL FORMbjYEH FINAL FORM",
    "zYEH FINAL FORMbdISOLATED FORMrKBAR ISOLATED FORMrLAYHAA AS-SALAAMvE ISOLATED FORM",
    "vI AS-SALAAMbfTU WAS-SALAAMwM AS-SALAAMxAA AS-SALAAM",
    "sEF MAKSURA WITH SUPERSCRIPT ALEF FINAL FORMbzISOLATED FORMvWITH FATHATAN FINAL FORM",
    "bjISOLATED FORMsLAH ISOLATED FORMrZZA WA JALLqBEH WITH ALEF MAKSURA FINAL FORM",
    "bmISOLATED FORMzHAH INITIAL FORMbeSOLATED FORMbdWITH YEH FINAL FORMbaEH INITIAL FORM",
    "bdMEDIAL FORMzJEEM INITIAL FORMbfSOLATED FORMzKHAH INITIAL FORMbfSOLATED FORM",
    "beWITH YEH FINAL FORMzMEEM FINAL FORMbeINITIAL FORMbfSOLATED FORMbeMEDIAL FORM",
    "zNOON FINAL FORMzREH FINAL FORMzYEH FINAL FORMbdISOLATED FORMzZAIN FINAL FORM",
    "rISMILLAH AR-RAHMAN AR-RAHEEMqDAD WITH ALEF MAKSURA FINAL FORMbmISOLATED FORM",
    "zHAH INITIAL FORMbeSOLATED FORMbdWITH ALEF MAKSURA FINAL FORMbiYEH FINAL FORM",
    "zJEEM INITIAL FORMbfSOLATED FORMzKHAH INITIAL FORMbfSOLATED FORMbeWITH MEEM FINAL FORM",
    "boINITIAL FORMzMEEM INITIAL FORMbfSOLATED FORMzREH FINAL FORMbdISOLATED FORMzYEH FINAL FORM",
    "bdISOLATED FORMqFEH WITH ALEF MAKSURA FINAL FORMbmISOLATED FORMzHAH INITIAL FORM",
    "beSOLATED FORMzJEEM INITIAL FORMbfSOLATED FORMzKHAH INITIAL FORMbfSOLATED FORM",
    "beWITH MEEM FINAL FORMboINITIAL FORMzMEEM INITIAL FORMbfSOLATED FORMbeWITH YEH FINAL FORM",
    "zYEH FINAL FORMbdISOLATED FORMqGHAIN WITH ALEF MAKSURA FINAL FORMboISOLATED FORM",
    "bbJEEM INITIAL FORMbhSOLATED FORMbbMEEM INITIAL FORMbhSOLATED FORM",
    "bgWITH ALEF MAKSURA FINAL FORMblMEEM FINAL FORMblYEH FINAL FORMbbYEH FINAL FORM",
    "bfISOLATED FORMqHAH WITH ALEF MAKSURA FINAL FORMbmISOLATED FORMzJEEM INITIAL FORM",
    "bfSOLATED FORMbeWITH YEH FINAL FORMzMEEM INITIAL FORMbfSOLATED FORM",
    "beWITH ALEF MAKSURA FINAL FORMbjYEH FINAL FORMzYEH FINAL FORMbdISOLATED FORM",
    "rEH WITH ALEF MAKSURA ISOLATED FORMzJEEM INITIAL FORMbfSOLATED FORMzMEEM INITIAL FORM",
    "bfSOLATED FORMbeWITH JEEM INITIAL FORMbjMEEM INITIAL FORMzSUPERSCRIPT ALEF INITIAL FORM",
    "zYEH ISOLATED FORMqJALLAJALALOUHOUrEEM WITH ALEF MAKSURA FINAL FORMbnISOLATED FORM",
    "baHAH INITIAL FORMbfSOLATED FORMbeWITH ALEF MAKSURA FINAL FORMbjYEH FINAL FORM",
    "baMEEM INITIAL FORMbgSOLATED FORMbfWITH ALEF MAKSURA FINAL FORMbkHAH FINAL FORM",
    "boINITIAL FORMbkYEH FINAL FORMbaYEH FINAL FORMbeISOLATED FORMqKAF WITH ALEF FINAL FORM",
    "beISOLATED FORMbeMAKSURA FINAL FORMbmISOLATED FORMzHAH INITIAL FORMbeSOLATED FORM",
    "zJEEM INITIAL FORMbfSOLATED FORMzKHAH INITIAL FORMbfSOLATED FORMzLAM FINAL FORM",
    "bdINITIAL FORMbeSOLATED FORMbdMEDIAL FORMzMEEM FINAL FORMbeINITIAL FORMbfSOLATED FORM",
    "beMEDIAL FORMbeWITH MEEM FINAL FORMboINITIAL FORMbjYEH FINAL FORMzYEH FINAL FORM",
    "bdISOLATED FORMrHAH WITH ALEF MAKSURA FINAL FORMbnISOLATED FORMbaHAH ISOLATED FORM",
    "baJEEM INITIAL FORMbgSOLATED FORMbaMEEM INITIAL FORMbgSOLATED FORMbaYEH FINAL FORM",
    "beISOLATED FORMqLAM WITH ALEF FINAL FORMbeISOLATED FORMbeMAKSURA FINAL FORMbmISOLATED FORM",
    "beWITH HAMZA ABOVE FINAL FORMbvISOLATED FORMbpBELOW FINAL FORMbvISOLATED FORM",
    "bjMADDA ABOVE FINAL FORMbvISOLATED FORMzHAH INITIAL FORMbeSOLATED FORM",
    "bdWITH ALEF MAKSURA FINAL FORMbiMEEM FINAL FORMbnINITIAL FORMbiYEH FINAL FORM",
    "baEH INITIAL FORMzJEEM INITIAL FORMbfSOLATED FORMbeWITH JEEM FINAL FORMboINITIAL FORM",
    "bjMEEM FINAL FORMboINITIAL FORMbjYEH FINAL FORMzKHAH INITIAL FORMbfSOLATED FORM",
    "beWITH MEEM FINAL FORMboINITIAL FORMzMEEM FINAL FORMbeINITIAL FORMbfSOLATED FORM",
    "beMEDIAL FORMbeWITH HAH FINAL FORMbnINITIAL FORMbjYEH FINAL FORMzYEH FINAL FORM",
    "bdISOLATED FORMqMEEM WITH ALEF FINAL FORMbfMAKSURA ISOLATED FORMbaHAH INITIAL FORM",
    "bfSOLATED FORMbeWITH JEEM INITIAL FORMbjMEEM INITIAL FORMbjYEH FINAL FORMbaJEEM INITIAL FORM",
    "bgSOLATED FORMbfWITH HAH INITIAL FORMbkKHAH INITIAL FORMbkMEEM INITIAL FORMbkYEH FINAL FORM",
    "baKHAH INITIAL FORMbgSOLATED FORMbfWITH JEEM INITIAL FORMbkMEEM INITIAL FORMbkYEH FINAL FORM",
    "baMEEM FINAL FORMbfINITIAL FORMbgSOLATED FORMbfWITH YEH FINAL FORMbaYEH ISOLATED FORM",
    "rOHAMMAD ISOLATED FORMqNOON WITH ALEF MAKSURA FINAL FORMbnISOLATED FORMbaHAH INITIAL FORM",
    "bfSOLATED FORMbeWITH ALEF MAKSURA FINAL FORMbjMEEM INITIAL FORMbjYEH FINAL FORM",
    "bbEH INITIAL FORMbeMEDIAL FORMbaJEEM INITIAL FORMbgSOLATED FORM",
    "bfWITH ALEF MAKSURA FINAL FORMbkHAH FINAL FORMboINITIAL FORMbkMEEM FINAL FORMbpINITIAL FORM",
    "bkYEH FINAL FORMbaKHAH INITIAL FORMbgSOLATED FORMbaMEEM FINAL FORMbfINITIAL FORM",
    "bgSOLATED FORMbfMEDIAL FORMbfWITH ALEF MAKSURA FINAL FORMbkYEH FINAL FORMbaNOON FINAL FORM",
    "baREH FINAL FORMbaYEH FINAL FORMbeISOLATED FORMbaZAIN FINAL FORM",
    "qQAF WITH ALEF MAKSURA FINAL FORMbmISOLATED FORMzHAH INITIAL FORMbeSOLATED FORM",
    "zMEEM INITIAL FORMbfSOLATED FORMbeWITH HAH FINAL FORMbnINITIAL FORMbjMEEM FINAL FORM",
    "bjYEH FINAL FORMzYEH FINAL FORMbdISOLATED FORMsLA USED AS KORANIC STOP SIGN ISOLATED FORM",
    "rUDDISA SIRRAHqRADI ALLAAHU ANHbgAAbgUMbiAAbhNNAsHIMAHU ALLAAHyM ALLAAHsSOUL ISOLATED FORM",
    "rEH WITH SUPERSCRIPT ALEF ISOLATED FORMqSAD WITH ALEF MAKSURA FINAL FORMbmISOLATED FORM",
    "zHAH INITIAL FORMbeSOLATED FORMbdWITH HAH FINAL FORMbmINITIAL FORMbiYEH FINAL FORM",
    "zKHAH INITIAL FORMzMEEM INITIAL FORMbfSOLATED FORMbeWITH MEEM FINAL FORMboINITIAL FORM",
    "zREH FINAL FORMbdISOLATED FORMzYEH FINAL FORMbdISOLATED FORMsLAAMUHU ALAYNAAuM ISOLATED FORM",
    "tLA ISOLATED FORMwUSED AS KORANIC STOP SIGN ISOLATED FORMvLLAAHU ALAYHI WA-AALIH",
    "yHOU ALAYHE WASALLAMzU ALAYHI WAAALIHEE WA-SALLAMrEEN WITH ALEF MAKSURA FINAL FORM",
    "bnISOLATED FORMbaHAH INITIAL FORMbfSOLATED FORMbeMEDIAL FORMbeWITH JEEM INITIAL FORM",
    "bbEH INITIAL FORMbeMEDIAL FORMbaJEEM INITIAL FORMbgSOLATED FORMbfMEDIAL FORM",
    "bfWITH ALEF MAKSURA FINAL FORMbkHAH INITIAL FORMbaKHAH INITIAL FORMbgSOLATED FORM",
    "bfMEDIAL FORMbfWITH ALEF MAKSURA FINAL FORMbkYEH FINAL FORMbaMEEM INITIAL FORMbgSOLATED FORM",
    "bfMEDIAL FORMbfWITH HAH FINAL FORMboINITIAL FORMbkJEEM INITIAL FORMbkMEEM FINAL FORM",
    "bpINITIAL FORMbaREH FINAL FORMbeISOLATED FORMbaYEH FINAL FORMbeISOLATED FORM",
    "rHADDA WITH DAMMA ISOLATED FORMbiMEDIAL FORMbhTAN ISOLATED FORMbcFATHA ISOLATED FORM",
    "biMEDIAL FORMbcKASRA ISOLATED FORMbiMEDIAL FORMbhTAN ISOLATED FORM",
    "bcSUPERSCRIPT ALEF ISOLATED FORMsEEN WITH ALEF MAKSURA FINAL FORMboISOLATED FORM",
    "bbHAH FINAL FORMbfINITIAL FORMbgSOLATED FORMbfMEDIAL FORMbfWITH MEEM FINAL FORM",
    "bpINITIAL FORMbkYEH FINAL FORMbcEH INITIAL FORMbfMEDIAL FORMbbJEEM FINAL FORMbgINITIAL FORM",
    "bhSOLATED FORMbgMEDIAL FORMbgWITH YEH FINAL FORMbbKHAH FINAL FORMbgINITIAL FORM",
    "bhSOLATED FORMbgMEDIAL FORMbbMEEM FINAL FORMbgINITIAL FORMbhSOLATED FORMbgMEDIAL FORM",
    "bgWITH KHAH FINAL FORMbqINITIAL FORMblMEEM FINAL FORMbqINITIAL FORMbbREH FINAL FORM",
    "bfISOLATED FORMbbYEH FINAL FORMbfISOLATED FORMrUBHAANAHU WA TAAALAAqTABAARAKA WA-TAAALAA",
    "sH WITH ALEF MAKSURA FINAL FORMbmISOLATED FORMzHAH INITIAL FORMbeSOLATED FORM",
    "zMEEM INITIAL FORMbfSOLATED FORMbeMEDIAL FORMbeWITH HAH FINAL FORMbnINITIAL FORM",
    "bjMEEM INITIAL FORMbjYEH FINAL FORMzYEH FINAL FORMbdISOLATED FORM",
    "rEH WITH ALEF MAKSURA FINAL FORMbmISOLATED FORMzHAH INITIAL FORMbeSOLATED FORM",
    "bdWITH JEEM FINAL FORMbnINITIAL FORMbiMEEM INITIAL FORMbaEH INITIAL FORMbdMEDIAL FORM",
    "zJEEM INITIAL FORMbfSOLATED FORMbeWITH ALEF MAKSURA FINAL FORMbjMEEM INITIAL FORM",
    "bjYEH FINAL FORMzKHAH INITIAL FORMbfSOLATED FORMbeWITH ALEF MAKSURA FINAL FORM",
    "bjMEEM INITIAL FORMbjYEH FINAL FORMzMEEM FINAL FORMbeINITIAL FORMbfSOLATED FORMbeMEDIAL FORM",
    "beWITH ALEF MAKSURA FINAL FORMbjHAH INITIAL FORMbjJEEM INITIAL FORMbjKHAH INITIAL FORM",
    "bjYEH FINAL FORMzNOON FINAL FORMzREH FINAL FORMzYEH FINAL FORMbdISOLATED FORM",
    "zZAIN FINAL FORMrHAL WITH SUPERSCRIPT ALEF ISOLATED FORMsEH WITH ALEF MAKSURA FINAL FORM",
    "bnISOLATED FORMbaHEH MEDIAL FORMbaJEEM ISOLATED FORMbaMEEM FINAL FORMbfINITIAL FORM",
    "bgSOLATED FORMbfMEDIAL FORMbaNOON FINAL FORMbaREH FINAL FORMbaYEH FINAL FORMbeISOLATED FORM",
    "baZAIN FINAL FORMqUIGHUR KIRGHIZ YEH WITH HAMZA ABOVE WITH ALEF MAKSURA FINAL FORM",
    "csINITIAL FORMctSOLATED FORMqWASALLAM ISOLATED FORMqYEH WITH ALEF MAKSURA FINAL FORM",
    "bmISOLATED FORMzHAH INITIAL FORMbeSOLATED FORMbdWITH YEH FINAL FORM",
    "bbMZA ABOVE WITH AE FINAL FORMbtISOLATED FORMbrLEF FINAL FORMbvISOLATED FORM",
    "bvMAKSURA FINAL FORMcdISOLATED FORMbqE FINAL FORMbsINITIAL FORMbtSOLATED FORM",
    "bqHAH INITIAL FORMbvSOLATED FORMbrEH INITIAL FORMbuMEDIAL FORMbqJEEM INITIAL FORM",
    "bwSOLATED FORMbqKHAH INITIAL FORMbqMEEM FINAL FORMbvINITIAL FORMbwSOLATED FORMbvMEDIAL FORM",
    "bqNOON FINAL FORMbqOE FINAL FORMbtISOLATED FORMbqREH FINAL FORMbqU FINAL FORMbsISOLATED FORM",
    "bqWAW FINAL FORMbuISOLATED FORMbqYEH FINAL FORMbuISOLATED FORMbrU FINAL FORMbtISOLATED FORM",
    "bqZAIN FINAL FORMbaEH INITIAL FORMbdMEDIAL FORMzJEEM INITIAL FORMbfSOLATED FORM",
    "beWITH YEH FINAL FORMzKHAH INITIAL FORMbfSOLATED FORMzMEEM FINAL FORMbeINITIAL FORM",
    "bfSOLATED FORMbeMEDIAL FORMbeWITH MEEM FINAL FORMboINITIAL FORMbjYEH FINAL FORM",
    "zNOON FINAL FORMzREH FINAL FORMzYEH FINAL FORMbdISOLATED FORMzZAIN FINAL FORM",
    "qZAH WITH MEEM INITIAL FORMbfSOLATED FORMbeMEDIAL FORMhMADDA WAAJIBmH ABOVEjRK NOON GHUNNA",
    "mSIDEWAYS NOON GHUNNAjTHEMATICAL AINvLEFuBEHuDADwLvOTLESS BEHbcFEHbcNOONbcQAF",
    "wUBLE-STRUCK AINbiBEHbiDADbkLbiFEHbiGHAINbiHAHbiJEEMbiKHAHbiLAMbiMEEMbiNOONbiQAFbiREHbiSAD",
    "bjEENbjHEENbiTAHbjEHbjHALbkEHbiWAWbiYEHbiZAHbkINuFEHuGHAINuHAHuINITIAL AINbcBEHbcDADbcFEH",
    "bcGHAINbcHAHbdEHbcJEEMbcKAFbdHAHbcLAMbcMEEMbcNOONbcQAFbcSADbdEENbdHEENbcTEHbdHEHbcYEHuJEEM",
    "uKAFvHAHuLAMvOOPED AINbcLEFbbBEHbbDADbdLbbFEHbbGHAINbbHAHbcEHbbJEEMbbKHAHbbLAMbbMEEMbbNOON",
    "bbQAFbbREHbbSADbcEENbcHEENbbTAHbcEHbcHALbdEHbbWAWbbYEHbbZAHbdINuMEEMuNOON",
    "uOPERATOR HAH WITH DALbdMEEM WITH HAH WITH TATWEELuQAFuREHuSADvEENvHEENvTRETCHED AINbeBEH",
    "beDADbfOTLESS BEHbmFEHbeFEHbeGHAINbeHAHbfEHbeJEEMbeKAFbfHAHbeMEEMbeNOONbeQAFbeSADbfEENbfHEEN",
    "beTAHbfEHbfHEHbeYEHbeZAHuTAHwILED AINbbDADbcOTLESS NOONbjQAFbbGHAINbbHAHbbJEEMbbKHAHbbLAM",
    "bbNOONbbQAFbbSADbcEENbcHEENbbYEHvEHvHALwEHuWAWuYEHuZAHwINhNUMBER MARK ABOVEoSIGN",
    "hOPEN DAMMATANmFATHATANmKASRATANhPERCENT SIGNiIASTRE MARK ABOVEiLACE OF SAJDAH",
    "iOETIC VERSE SIGNjUND MARK ABOVEhQUESTION MARKhRAISED ROUND DOTjYiEVERSED DAMMA",
    "iIGHT ARROWHEAD ABOVEbc WITH DOTxBELOWiOUNDED HIGH STOP WITH FILLED CENTREhSEMICOLONiHADDA",
    "n ISOLATED FORMoMEDIAL FORMiIGN ALAYHE ASSALLAMmMISRAmRADI ALLAHOU ANHUoHMATULLAH ALAYHE",
    "mSAFHAoLLALLAHOU ALAYHE WASSALLAMoMVAToNAHnINDHI AMPERSANDtPOSTPOSITION MENmTAKHALLUS",
    "iMALL DAMMAnFARSI YEHpTHAnHIGH AINsDOTLESS HEAD OF KHAHsFARSI YEHtOOTNOTE MARKERsJEEM",
    "sLAM ALEFtIGATURE ALEF WITH LAM WITH YEHbbQAF WITH LAM WITH ALEF MAKSURA",
    "bbSAD WITH LAM WITH ALEF MAKSURAsMADDAtEEM INITIAL FORMySOLATED FORMsNOONw WITH KASRAsQAF",
    "sROUNDED ZEROsSADtEENtIGN SAFHAsTAHtHREE DOTSsUPRIGHT RECTANGULAR ZEROsWAWtORD AL-JUZyN-NISF",
    "yR-RUByS-SAJDAyTH-THALATHAxQIFxSAHzKTAxWAQFAsYEHv BARREE WITH TWO DOTS BELOWsZAHuINnKASRA",
    "nLOW MEEMrNOON WITH KASRArSEENrWAWsORD IMAALAxSHMAAMwTASHEELnWAWnYEHiTART OF RUB EL HIZB",
    "iUBSCRIPT ALEFjKUNm BELOWnISOLATED FORMnMEDIAL FORMjPERSCRIPT ALEF MOKHASSASiYMBOL DOT ABOVE",
    "sBELOWqUBLE VERTICAL BAR BELOWoFOUR DOTS ABOVEyBELOWoRINGoSMALL TAH ABOVEyBELOW",
    "oTHREE DOTS ABOVEzBELOWzPOINTING DOWNWARDS ABOVEbsBELOWpWO DOTS ABOVExBELOWxVERTICALLY ABOVE",
    "biBELOWoWASLA ABOVEhTAIL FRAGMENTjTWEELo WITH FATHATAN ABOVEuOVERSTRUCK HAMZAbfWAW",
    "uTWO DOTS BELOWiHOUSANDS SEPARATORiONE LOOP ABOVErBELOWmONE DOT ABOVEuBELOWmTWO DOTS ABOVE",
    "vBELOWiRIPLE DOT PUNCTUATION MARKiURNED DAMMA BELOWhVERTICAL TAILiOWEL SIGN DOT BELOW",
    "sINVERTED SMALL V ABOVEsSMALL V ABOVEhWAVY HAMZA BELOWhZWARAKAYg-INDIC CUBE ROOTnDIGIT EIGHT",
    "tFIVEuOURtNINEtONEtSEVENuIXtTHREEuWOtZEROnFOURTH ROOTnPER MILLE SIGNrTEN THOUSAND SIGNcCcIES",
    "cMENIAN ABBREVIATION MARKkPOSTROPHEjCAPITAL LETTER AYByBENyCAzHAbaEHzOyDAyECHzHzTyFEHyGHAD",
    "zIMyHOyINIyJAzHEHyKEHbaNyLIWNyMENyNOWyOHyPEHzIWRyRAzEHySEHzHAyTIWNzOyVEWzOyXEHyYIbaWNyZAzHE",
    "kOMMAjDRAM SIGNjEMPHASIS MARKkXCLAMATION MARKjFULL STOPjHYPHEN",
    "jMODIFIER LETTER LEFT HALF RINGjQUESTION MARKjSMALL LETTER AYBwBENwCAxHAyEHxOwDAwECHxHxTwFEH",
    "wGHADxIMwHOwINIwJAxHEHwKEHyNwLIWNwMENwNOWwOHwPEHxIWRwRAxEHwSEHxHAwTIWNxOxURNED AYBwVEWxOwXEH",
    "wYIy WITH STROKEyWNwZAxHEqIGATURE ECH YIWNyMEN ECHbcINIbcNOWbcXEHyVEW NOW",
    "cROW POINTING DOWNWARDS THEN CURVING LEFTWARDSbmRIGHTWARDSpRIGHTWARDS THEN CURVING DOWNWARDS",
    "bnSOUTH WESTbnUPWARDSpUPWARDS THEN NORTH WESTfHEAD-SHAPED POINTERcTICULATED LORRYeST PALETTE",
    "bSCENDING NODEdIA SYMBOLcSERTIONcTERISKi OPERATORhMdONISHED FACEdRAEA",
    "eONOMICAL SYMBOL FOR URANUScYMPTOTICALLY EQUAL TObTHLETIC SHOEcOM SYMBOLbUBERGINEcSTRAL SIGN",
    "cTO RICKSHAWeMATED TELLER MACHINEfOBILEbVESTAN ABBREVIATION MARKiLETTER AqArNrOqErEqNqOpBE",
    "qHEpCEpDEqHEpEqEpFEpGEqGEqHEpHEqMEpIqIpJEpKEpLEpMEpNEqGErVErYEqNEqYEpOqOpPEpREpSEqHErYEqSHE",
    "pTEqHEqTEpUqUpVEpXEqVEqYEpYEqYEpZEqHEcOCADObXE"]

end NetPlan.Text.CharacterName
