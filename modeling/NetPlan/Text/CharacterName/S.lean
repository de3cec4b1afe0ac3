/-!
# Names of characters: S

The names of characters that start with the letter S, as rows of a table.
-/

namespace NetPlan.Text.CharacterName

/-- The names that start with S. -/
def rowsS : List String :=
  ["aS IN TRIANGLEbAFETY PINhVESTcGITTARIUScILBOATcKE BOTTLE AND CUPcLT SHAKEReIREdUTING FACE",
    "cMARITAN ABBREVIATION MARKkLETTER ALAFrBAAsITrDALATrFIrGAMANrINsTsYrKAAFrLABATrMIMrNUNrQUF",
    "rRISHrSHANsINGAATrTAAFsITsSAADIYrYUTrZENkMARK DAGESHpEPENTHETIC YUTpINr-ALAFpNEQUDAA",
    "pOCCLUSIONlODIFIER LETTER EPENTHETIC YUTbaIbaSHORT AkPUNCTUATION AFSAAQxNGEDyNAAUxRKAANU",
    "xTMAAUwBAUwMELODIC QITSAwNEQUDAAwQITSAwSHIYYAALAAxOF MASHFAATwTURUwZAEFxIQAAkVOWEL SIGN AwA",
    "vEvIvLONG AbbAbaEbaIbaUvOwVERLONG AbfAvSHORT AwUKUNvUcNDWICH",
    "dS-SERIF HEAVY DOUBLE COMMA QUOTATION MARK ORNAMENTyTURNED COMMA QUOTATION MARK ORNAMENT",
    "rLOW DOUBLE COMMA QUOTATION MARK ORNAMENTlINTERROBANG ORNAMENTcRIcTELLITEj ANTENNAdURN",
    "cURASHTRA CONSONANT SIGN HAARUlDANDAmIGIT EIGHTrFIVEsOURrNINErONErSEVENsIXrTHREEsWOrZERO",
    "mOUBLE DANDAlLETTER AtAtItUsBAtHAsCAtHAsDAtDAuHAtHAsEtEsGAtHAsHAsItIsJAtHAsKAtHAsLAtLAsMAsNA",
    "tGAtNAtYAsOtOsPAtHAsRAsSAtHAtSAsTAtHAtTAuHAsUtUsVAtOCALIC LbbLbaRbbRsYAlSIGN ANUSVARA",
    "qCANDRABINDUqVIRAMAsSARGAlVOWEL SIGN AAxIxUwExEwIxIwOxOwUxUwVOCALIC LbfLbeRbfReOPODcXOPHONE",
    "bCALESdRFcHOOLg SATCHELcIcOOTERdRPIONgUScREENeWDRIVERdIPT CAPITAL BpEpFpHpIpLpMpPpR",
    "hLIGATURE ET ORNAMENThSMALL EnGnLnOdOLLdUPLEbEALdTcCOND PLACE MEDALdTION SIGNeORcDNA",
    "cE-NO-EVIL MONKEYdDLINGcGMENThED DIGIT EIGHTqFIVErOURqNINEqONEqSEVENrIXqTHREErWOqZEROcLFIE",
    "cMICOLONeDIRECT PRODUCT WITH BOTTOM CLOSEDeSEXTILEcPARATED SYMBOL",
    "cRIOUS FACE WITH SYMBOLS COVERING MOUTHdVICE MARKcSAME DOTdQUIQUADRATEcT MINUS",
    "eTRANSMIT STATEcWING NEEDLEcXTILEbGCbHADOWED WHITE CIRCLEpLATIN CROSSpSTARdLLOW PAN OF FOOD",
    "dMROCKdRADA ABBREVIATION SIGNiCONTINUATION SIGNiDANDAjIGIT EIGHToFIVEpOURoNINEoONEoSEVENpIX",
    "oTHREEpWOoZEROjOUBLE DANDAiEKAMjXTRA SHORT VOWEL MARKiHEADSTROKEiLETTER AqAqIqUpBAqHApCAqHA",
    "pDAqDArHAqHApEpGAqHApHApIqIpJAqHApKAqHApLAqLApMApNAqGAqNAqYApOpPAqHApRApSAqHAqSApTAqHAqTArHA",
    "pUqUpVAqOCALIC LyLxRyRpYAiOMiSANDHI MARKjECTION MARK-1v2kPARATORjIGN ANUSVARAoVAGRAHA",
    "nCANDRABINDUnINVERTED CANDRABINDUnJIHVAMULIYAnNUKTAnSIDDHAMnUPADHMANIYAnVIRAMApSARGA",
    "jUTRA MARKiVOWEL MODIFIER MARKoSIGN AAuIuUtEtIuItOtPRISHTHAMATRA EtUuUtVOCALIC LbcLbbRbcReK",
    "dVED ICEeIAN LETTER ADOqGEqHqIRqRErRAYqSHqWEpBIBpCHURCHpDEADpEARrTqGGqRRpFEEpGAGpHA-HAqUNG",
    "pIANqCEqFpJUDGEpKICKpLOLLpMEASUREqIMEpNUNpOAKqILqNqOZEqRqUTpPEEPpROARpSOqUREpTHEYrIGHqOTpUP",
    "pVOWpWOErOLpYEArWpZOOcEEPcIELDdFT INgOUTdNTO SHRINEdPcOCKED FACE WITH EXPLODING HEAD",
    "dOTING STARdPPING BAGSjTROLLEYdRT BACKSLANTED SOUTH ARROW",
    "hENT ARROW POINTING DOWNWARDS THEN NORTH EASTgDOWN TACKp WITH OVERBARgLEFT TACK",
    "gRIGHTWARDS ARROW ABOVE LEFTWARDS ARROWgSLANTED NORTH ARROWgUP TACKn ABOVE SHORT DOWN TACK",
    "oWITH UNDERBARfCAKEfHAND FORMAT CONTINUING OVERLAPrDOWN STEPrLETTER OVERLAPrUP STEPfS",
    "dULDERED OPEN BOXdWERcRIMPdUGcUFFLE PRODUCTcYbIcDDHAM DANDAjOUBLE DANDAiEND OF TEXT MARK",
    "iLETTER AqAqIqLTERNATE UqUpBAqHApCAqHApDAqDArHAqHApEpGAqHApHApIqIpJAqHApKAqHApLApMApNAqGAqNA",
    "qYApOpPAqHApRApSAqHAqSApTAqHArREE-CIRCLE ALTERNATE IqTArHAqWO-CIRCLE ALTERNATE IblIpUqUpVA",
    "qOCALIC LyLxRyRpYAiREPETITION MARK-1y2y3iSECTION MARK DOUBLE RINGbg WITH RAYS",
    "vWITH CIRCLES AND FOUR ENCLOSURESbmRAYSbmTWO ENCLOSURESbaDOUBLE CRESCENTS",
    "baQUADRUPLE CRESCENTSbaRAYS AND DOTTED CRESCENTSbqDOUBLE CRESCENTSbqTRIPLE CRESCENTS",
    "baSEPTUPLE CRESCENTSbaTRIDENT AND DOTTED CRESCENTSbmU-SHAPED ORNAMENTSbdPLE CRESCENTS",
    "kPARATOR BARsDOTjIGN ANUSVARAnCANDRABINDUnNUKTAnSIDDHAMnVIRAMApSARGAiVOWEL SIGN AAuI",
    "uLTERNATE UbeUuUtEtIuItOtUuUtVOCALIC RbcRdEWAYS BLACK DOWN POINTING INDEX",
    "pLEFT POINTING INDEXpRIGHT POINTING INDEXpUP POINTING INDEXjWHITE DOWN POINTING INDEX",
    "pLEFT POINTING INDEXpRIGHT POINTING INDEXpUP POINTING INDEXcGN OF THE HORNS",
    "eWRITING AIR BLOW SMALL ROTATIONSuING OUTqSUCK SMALL ROTATIONSuING INmBREATH EXHALEtINHALE",
    "oUSH BETWEENsMULTIPLEsSINGLEmCHEEKS NEUTRALtPUFFEDtSUCKEDnOLONoMMA",
    "mDREAMY EYEBROWS DOWN NEUTRALbcNEUTRAL DOWNbkUPbcUP NEUTRALnYNAMIC ARROWHEAD LARGEbeSMALL",
    "uEVERY OTHER TIMEuFASTuGRADUALuRELAXEDuSIMULTANEOUSbg ALTERNATINGvLOWuTENSEmEARSnXCITEMENT",
    "nYE BLINK MULTIPLEwSINGLEqWINKpBROWS STRAIGHT DOWNbeNEUTRALbeUPpGAZE-FLOORPLANE CURVED",
    "bfSTRAIGHTbn ALTERNATINGboDOUBLEuWALLPLANE CIRCLINGbfURVEDbeSTRAIGHTbm ALTERNATINGbnDOUBLE",
    "pLASHES DOWNwFLUTTERINGwUPpS CLOSEDrHALF CLOSEDwOPENrOPENrSQUEEZEDrWIDE OPENvNING MOVEMENT",
    "mFACE DIRECTION POSITION NOSE FORWARD TILTINGbpUP OR DOWNbz TILTINGnILL MODIFIER-2ba3ba4ba5",
    "ba6oNGERnLICK LARGE MULTIPLEySINGLEsSEQUENTIALtMALL MULTIPLEySINGLE",
    "oOORPLANE SHOULDER HIP MOVEnOREHEAD CONTACTvNEUTRALvWRINKLEDnULL STOPmGRASP BETWEENsMULTIPLE",
    "sSINGLEmHAIRoND-ANGLEw INDEXbc MIDDLE LITTLEbkRINGbdRING LITTLEbo OUTbdTHUMBbi INbjOUT",
    "xLITTLE INDEXbj THUMB INDEX THUMBcb OUTbeUPxMIDDLE RING LITTLEbp INbqOUT",
    "xRING DOWN MIDDLE THUMB INDEX CROSSbcLITTLErCIRCLEx INDEXbd BENTbeHINGEbeMIDDLE",
    "bk CROSS LITTLEbqEDblLITTLEblRINGblTHUMBbeRING LITTLEyLITTLE INDEXbfUPyMIDDLE RING LITTLE",
    "bq BENTbfUPyRING LITTLEsLAWv FOUR FINGERS CONJOINEDwINDEX THUMB CURVE THUMB INSIDE",
    "wMIDDLE RING LITTLE CONJOINEDby SIDEwNO THUMBwTHUMB FORWARDbcSIDEsUPu FIVE FINGERS SPREAD",
    "bo OPENvINDEXba RING LITTLEbbTHUMBbg OPENvMIDDLE RING LITTLEvNO THUMBvOPENz NO THUMB",
    "baTHUMB FORWARDbgSIDEvTHUMB FORWARDbbSIDEtRLICUEz INDEX RING LITTLE ON",
    "baMIDDLE RING LITTLE ONbaOPENrFISTv FOUR FINGERS CONJOINED BENTwHEELwINDEXbb BENT",
    "bg OVER MIDDLEbcCUPPEDbcHINGEDbi LOWbjMIDDLE UPbs THUMB SIDEbcMIDDLEbi BENTbn THUMB STRAIGHT",
    "bjCONJOINEDbs CUPPEDbz THUMB FORWARDbtHINGEDbz THUMB SIDEbtINDEX BENTbtMIDDLE BENT",
    "btTHUMB FORWARDbzSIDEcd BENTceCONJOINEDbkROSS LITTLEboEDbq THUMB SIDEbjHINGED",
    "bp SPREAD THUMB SIDEbjLITTLEbjRAISED KNUCKLESbkINGbn BENTboCONJOINEDbjSTRAIGHT THUMB BENT",
    "bjTHUMBbo ANGLEDbv OUTbpBENTbpCIRCLEDbqONJOINED HINGEDbqUPPEDbpHINGEDbqOOKED",
    "bjUP SPREAD THUMB FORWARDbcRAISED KNUCKLEbdING LITTLEbcTHUMB ANGLED IN MIDDLE UP",
    "bpOUT MIDDLE UPbiCIRCLEboD MIDDLE UPbjUPPED MIDDLE UPbkRLICUEblVE THUMB INSIDEbuUNDER",
    "biFORWARD INDEX BENTbwSTRAIGHTbiHOOKbmED MIDDLE HINGEDbwUPbiSIDEbm BOTH BENTbnINDEX BENT",
    "btHINGEbnTHUMB BENTbtCONJOINEDbtDIAGONALbcUP MIDDLE HINGEDbs THUMB CONJOINEDbzSIDE",
    "wLITTLE BENTbdDOWNbh OTHERS CIRCLEDbiRIPPLE CURVEDbpSTRAIGHTbdINDEXbi THUMBbdRAISED KNUCKLE",
    "bdTHUMBbeOUCHES THUMBbdUPwMIDDLE BENT OVER INDEXbdDOWNbdLITTLEbdRAISED KNUCKLEbeING LITTLE",
    "bdTHUMB ANGLED INDEX UPbqOUT INDEX CROSSEDcaUPbjCIRCLED INDEX HINGEDbxUPbkUPPED INDEX UP",
    "bjHOOKED INDEX UPbjLITTLEbdUPbf THUMB SIDEwRING DOWNbbINDEXbbLITTLEbbMIDDLEbh CONJOINED",
    "biRAISED KNUCKLESbbRAISED KNUCKLEbbTHUMBbbUPwTHUMBbb BETWEEN INDEX MIDDLEbw STRAIGHT",
    "bkMIDDLE RINGbkRING LITTLEbcFORWARDbcHEELbcOVER FOUR RAISED KNUCKLESbhTWO FINGERSbcSIDE BENT",
    "bhCONJOINEDbhDIAGONALbcUNDER FOUR FINGERSbiINDEX BENTbiLITTLE UPbiTHREE FINGERSbjWO FINGERS",
    "sLATv BETWEEN PALM FACINGSwFIVE FINGERS SPREADbp BENTbqFOUR BENTbqHINGEDbw NO THUMB",
    "bxTHUMB SIDEbqTHUMB FORWARDxOUR FINGERSbi BENTbjCONJOINEDbs SPLITbjHINGEDwHEEL",
    "ba FIVE FINGERS SPREADbu BENTbvFOUR BENTbbTHUMB SIDEwSPLIT CENTREbi THUMB SIDEbt BENT",
    "bcINDEX THUMB SIDEbcLITTLEwTHUMB BENTbcFORWARDbcSIDErHINGEw FIVE FINGERS SPREAD OPEN",
    "yOUR FINGERS CONJOINEDxINDEXbc HINGEDbdMIDDLE LITTLEbkRINGbo CONJOINEDbdRING LITTLEbdTHUMB",
    "bi LARGEbjOPENbjSIDEbkMALLxLITTLEbd INDEXbj THUMBbeTHUMBxMIDDLEbd RING LITTLExNO THUMBxOPEN",
    "bb NO THUMBbcTHUMB FORWARDbiSIDExRINGbb DOWN INDEX THUMB HOOK MIDDLExSMALL",
    "xTHUMB BETWEEN MIDDLE RINGbdSIDEbh TOUCHING INDEXsOOKv CURLICUEwINDEX RING LITTLE INboOUT",
    "boUNDERwMIDDLE RING LITTLE CONJOINEDby INbzOUTbdTHUMBwRING THUMBrOVALv FIVE FINGERS SPREAD",
    "wINDEXwLITTLE UPwNO THUMBwRING LITTLEwTHUMB FORWARDbcSIDEnEADq MOVEMENT CIRCLE",
    "z-FLOORPLANE CURVEblSTRAIGHTbaWALLPLANE CURVEbkSTRAIGHTbkTILTrRIMmLIMB COMBINATIONrLENGTH-1",
    "y2y3y4y5y6y7oP LOWER OVER UPPERqUPPER OVER LOWERpS PRESSED TOGETHERnOCATION DEPTHvHEAD NECK",
    "xIGHTvLIMBS DIGITSvTORSOvWIDTHu-FLOORPLANE SPACEvWALLPLANE SPACEmMOUTH CLOSED CONTACT",
    "zFORWARDzNEUTRALtORNERSsFROWNx OPENyWRINKLEDsKISSw FORWARDxWRINKLEDsOPEN CIRCLExFORWARDxOVAL",
    "bb WRINKLEDbcYAWNxRECTANGLEbg WRINKLEDbhYAWNxWRINKLEDsSMILEx OPENyWRINKLEDsTENSEx FORWARD",
    "ySUCKEDsWRINKLES DOUBLEbbSINGLEoVEMENT-DIAGONAL AWAY LARGEboSTbjMEDIUMbjSMALL",
    "beBETWEEN AWAY LARGEbwSTbrMEDIUMbrSMALLbmTOWARDS LARGEbzSTbuMEDIUMbuSMALLbeTOWARDS LARGEbrST",
    "bmMEDIUMbmSMALLvFLOORPLANE ARM CIRCLE HITTING WALL LARGE DOUBLEckSINGLEceMEDIUM DOUBLE",
    "clSINGLEceSMALL DOUBLEckSINGLEbgBENDbhOX LARGEbkMEDIUMbkSMALLbgCHECKbhORNER LARGEbnMEDIUM",
    "bnSMALLbhROSSbhURVE COMBINEDbmHITTING CEILING LARGEccSMALLbuFLOOR LARGEcaSMALLbmLARGEbrST",
    "bmMEDIUMbmSMALLbgDOUBLE ALTERNATINGby WRIST FLEXbnSTRAIGHTbnWRIST FLEX",
    "bgFINGER CIRCLES HITTING WALL DOUBLEciSINGLEboONTACTbgHUMP HITTING CEILING LARGE DOUBLE",
    "chTRIPLEcbSMALL DOUBLEchTRIPLEbtFLOOR LARGE DOUBLEbzSMALL DOUBLEbzTRIPLE LARGE TRIPLE",
    "cgSMALL TRIPLEblSMALLbgJAWbgLOOP HITTING CEILING LARGE DOUBLEchSINGLEcbSMALL DOUBLEchSINGLE",
    "btFLOOR LARGE DOUBLEcfSINGLEbzSMALL DOUBLEcfSINGLEblSMALLbgPEAKS LARGEbmMEDIUMbmSMALL",
    "bgSHAKING PARALLELbhINGLE STRAIGHT LARGEcbSTbwMEDIUMbwSMALLbnWRIST FLEX",
    "bgTRIPLE ALTERNATING MOVEMENTbzWRIST FLEXbnSTRAIGHT MOVEMENTbnWRIST FLEX",
    "bgWAVE HITTING CEILING LARGEcbSMALLbtFLOOR LARGEbzSMALLblLARGEblSMALLbmNAKE",
    "bhRIST CIRCLE HITTING WALL DOUBLEcgSINGLEbgZIGZAG LARGEbnMEDIUMbnSMALLvHINGE DOWN SEQUENTIAL",
    "bbSIDE TO SIDE SCISSORSbbUP DOWN ALTERNATING LARGEbvSMALLbjLARGEbjSMALLbeSEQUENTIAL",
    "vWALLPLANE ARM CIRCLE MEDIUM DOUBLEbxSINGLEbqSMALL DOUBLEbwSINGLEbfBEND LARGEbkMEDIUMbkSMALL",
    "bgOX LARGEbjMEDIUMbjSMALLbfCHECK LARGEblMEDIUMblSMALLbgORNER LARGEbmMEDIUMbmROTATIONbmSMALL",
    "bgROSSbgURVE HALF-CIRCLE LARGEccSTbxMEDIUMbxSMALLbmITTING CHESTbtFRONT WALLblQUARTER LARGE",
    "bySTbtMEDIUMbtSMALLblTHEN STRAIGHTbnREE-QUARTER CIRCLE MEDIUMcgSMALLbkD CROSS MEDIUMbsSMALL",
    "bfDOUBLE ALTERNATINGbx WRIST FLEXbmSTRAIGHTbmWRIST FLEXbfFINGER CIRCLES DOUBLEbuSINGLE",
    "bnONTACTbfHUMP HITTING CHESTbsFRONT WALLbkLARGEbkMEDIUMbkSMALLbfJAWbfLOOP HITTING CHEST",
    "bsFRONT WALLbkLARGEbkMEDIUMbkSMALLbp DOUBLEbfPEAKS LARGEblMEDIUMblSMALLbfSHAKING",
    "bgINGLE STRAIGHT LARGEcaSTbvMEDIUMbvSMALLbmWRIST FLEXbfTRIPLE ALTERNATINGbx WRIST FLEX",
    "bmSTRAIGHT MOVEMENTbmWRIST FLEXbfWAVE CURVE DOUBLE LARGEbxMEDIUMbxSMALLbqTRIPLE LARGE",
    "bxMEDIUMbxSMALLbkDIAGONAL PATH LARGEbyMEDIUMbySMALLbkHITTING CHESTbsFRONT WALL",
    "bgRIST CIRCLE FRONT DOUBLEbySINGLEbfZIGZAG LARGEbmMEDIUMbmSMALLmNECKnOSE CONTACTrNEUTRAL",
    "rWIGGLESsRINKLESmPARENTHESISmROTATION MODIFIER-10bf1bf2bf3bf4bf5bf6be2be3be4be5be6be7be8be9",
    "u-FLOORPLANE ALTERNATINGbr HITTING CEILINGcaFLOORbgDOUBLEbm HITTING CEILINGbvFLOORbgSINGLE",
    "bm HITTING CEILINGbvFLOORvWALLPLANE ALTERNATEbnING HITTING CHESTbzFRONT WALLbfDOUBLE",
    "bl HITTING CHESTbuFRONT WALLbfSINGLEbl HITTING CHESTbuFRONT WALLnUB BETWEENqMULTIPLEqSINGLE",
    "mSEMICOLONnHOULDER HIP POSITIONSzSPINEvTILTING FROM WAISTnQUEEZE FLICK ALTERNATING",
    "uLARGE MULTIPLEbaSINGLEuSEQUENTIALvMALL MULTIPLEbaSINGLEnTRIKE BETWEENtMULTIPLEtSINGLE",
    "nURFACE BETWEENuSYMBOLSmTEETHr BITE LIPSsMOVEMENTsON LIPSz MOVEMENTvTONGUEbb MOVEMENT",
    "oNSE CHEEKS HIGHzLOWzMIDDLEnONGUE CENTRE INSIDE MOUTHbaSTICKING OUTtINSIDE MOUTH RELAXED",
    "tLICKING LIPStMOVES AGAINST CHEEKtSTICKING OUT FARtTIP BETWEEN LIPSxTOUCHING INSIDE MOUTH",
    "oRSO-FLOORPLANE TWISTINGsWALLPLANE CURVED BENDbcSTRAIGHT STRETCHoUCH BETWEENsMULTIPLEsSINGLE",
    "nRAVEL-FLOORPLANE ROTATION-FLOORPLANE ALTERNATINGbyDOUBLEbySINGLEbnWALLPLANE ALTERNATING",
    "bxDOUBLEbxSINGLEbeSHAKINGtWALLPLANE ARM SPIRAL DOUBLEboSINGLEboTRIPLE",
    "bdROTATION-FLOORPLANE ALTERNATINGbxDOUBLEbxSINGLEbmWALLPLANE ALTERNATINGbwDOUBLEbwSINGLE",
    "bdSHAKINGmUPPER BODY TILTING FROM HIP JOINTSmWALLPLANE SHOULDER HIP MOVEcLHOUETTE OF JAPAN",
    "cMILAR ABOVE GREATER-THAN ABOVE EQUALS SIGNoLESS-THAN ABOVE EQUALS SIGNiMINUS SIMILAR",
    "iOR GREATER-THANlLESS-THANcNE WAVEdGLE CHARACTER INTRODUCERhGRAPHIC CHARACTER INTRODUCER",
    "hHIGH-REVERSED-9 QUOTATION MARKhLEFT-POINTING ANGLE QUOTATION MARKiOW-9 QUOTATION MARK",
    "hRIGHT-POINTING ANGLE QUOTATION MARKhSHIFT THREEoWOg-SHIFT-2n3dHALA ARCHAIC DIGIT EIGHTwFIVE",
    "xOURwNINEwONEwSEVENxIXwTHREExWOqNUMBER EIGHTYxFIFTYyORTYxNINETYxONE HUNDREDbbTHOUSAND",
    "xSEVENTYyIXTYxTENyHIRTYyWENTYiLETTER AAYANNAqEEYANNArYANNAqIYANNAqLPAPRAANA BAYANNAbaCAYANNA",
    "baDAYANNAbbDAYANNAbaGAYANNAbaJAYANNAbaKAYANNAbaPAYANNAbaTAYANNAbbTAYANNAqMBA BAYANNAqUYANNA",
    "qYANNApDANTAJA LAYANNAxNAYANNAxSAYANNApEEYANNAqYANNApFAYANNApHAYANNApIIYANNAqLUUYANNAsYANNA",
    "qRUUYANNAsYANNAqYANNApKANTAJA NAASIKYAYApMAHAAPRAANA BAYANNAbbCAYANNAbbDAYANNAbcDAYANNA",
    "bbGAYANNAbbJAYANNAbbKAYANNAbbPAYANNAbbTAYANNAbcTAYANNArYANNAqUURDHAJA LAYANNAzNAYANNA",
    "zSAYANNApOOYANNAqYANNApRAYANNApSANYAKA DAYANNAyDAYANNAxGAYANNAxJAYANNApTAALUJA NAASIKYAYA",
    "xSANYOOGA NAAKSIKYAYAzYANNApUUYANNAqYANNApVAYANNApYAYANNAjITH DIGIT EIGHTtFIVEuOURtNINEtONE",
    "tSEVENuIXtTHREEuWOtZEROiPUNCTUATION KUNDDALIYAiSIGN AL-LAKUNAoNUSVARAYAnCANDRABINDU",
    "nVISARGAYAiVOWEL SIGN AELA-PILLAtDIGA AEDA-PILLAyGAETTA-PILLAbaYANUKITTAyIS-PILLAyKOMBUVA",
    "yPAA-PILLAtGAETTA-PILLAvYANUKITTAtKETTI AEDA-PILLAzIS-PILLAzPAA-PILLAuOMBU DEKAyVA",
    "ba HAA AELA-PILLAbfDIGA AELA-PILLAbfGAYANUKITTAcX PETALLED BLACK AND WHITE FLORETTE",
    "fOINTED BLACK STARmPINWHEEL STARmSTAR WITH MIDDLE DOTd-PER-EM SPACEdTEEN POINTED ASTERISK",
    "bKATEBOARDcI AND SKI BOOTdERcULLf AND CROSSBONESdNKbLANTED EQUAL TO OR GREATER-THAN",
    "bg WITH DOT INSIDEuLESS-THANbd WITH DOT INSIDEiNORTH ARROW WITH HOOKED HEADbbRIZONTAL TAIL",
    "dVONIC ASTERISKcEDdEPING ACCOMMODATIONjFACEjSYMBOLfY FACEdUTH OR SPYcICE OF PIZZA",
    "dGHTLY FROWNING FACEjSMILING FACEcOPEeING LARGE ANDoORdT MACHINEeHbMALL AIRPLANEhMPERSAND",
    "hSTERISKgBLUE DIAMONDgCOLONiMMAkERCIAL ATiNTAINS AS MEMBERpWITH OVERBAR",
    "uVERTICAL BAR AT END OF HORIZONTAL STROKEgDOLLAR SIGNgELEMENT OFq WITH OVERBAR",
    "wVERTICAL BAR AT END OF HORIZONTAL STROKEhM DASHhQUALS SIGNhXCLAMATION MARKgFULL STOP",
    "gGREATER-THAN SIGNgHYPHEN-MINUSgIDEOGRAPHIC COMMAgLEFT CURLY BRACKETlPARENTHESIS",
    "lTORTOISE SHELL BRACKETiSS-THAN SIGNgNUMBER SIGNgORANGE DIAMONDgPERCENT SIGNhLUS SIGN",
    "gQUESTION MARKgREVERSE SOLIDUShIGHT CURLY BRACKETmPARENTHESISmTORTOISE SHELL BRACKET",
    "hOMAN NUMERAL EIGHTvLEVENuFIFTYwVEy HUNDREDvOURuNINEuONEx HUNDREDyTHOUSANDuSEVENvIXuTENvHREE",
    "vWELVEwOgSEMICOLONgTILDEhWO DOTS OVER ONE DOT PUNCTUATIONgVEE WITH UNDERBARfER THAN",
    "m OR EQUAL TOdSH PRODUCTcILEeING CAT FACE WITH HEART-SHAPED EYESwOPEN MOUTHiFACE WITH HALO",
    "tEART-SHAPED EYEStORNSsOPEN MOUTHbc AND COLD SWEATbhSMILING EYESbhTIGHTLY-CLOSED EYES",
    "sSMILING EYESbe AND HAND COVERING MOUTHbjTHREE HEARTStUNGLASSESsTEARdRKING FACEcOKING SYMBOL",
    "bNAILdKEcEEZING FACEcOW CAPPED MOUNTAINeBOARDEReFLAKEeMANh WITHOUT SNOWbOcCCER BALLdKS",
    "cFT HYPHENfICE CREAMfSHELL FLOPPY DISKeBALLeWARE-FUNCTION SYMBOLcGDIAN COMBINING CURVE ABOVE",
    "yBELOWsDOT ABOVEwBELOWsHOOK ABOVExBELOWsLONG HOOK BELOWsRESH BELOWsSTROKE BELOW",
    "sTWO DOTS ABOVEbbBELOWiINDEPENDENT SHINiLETTER ALEPHqYINpBETHpFETHpGIMELpHErTHpKAPHpLAMEDH",
    "qESHpMEMpNUNpPEpRESH-AYINpSADHErMEKHqHINpTAWpWAWpYODHpZAYINiNUMBER ONEs HUNDREDpTENqWENTY",
    "iPUNCTUATION CIRCLE WITH DOTuHALF CIRCLE WITH DOTuTWO CIRCLES WITH DOTSyVERTICAL BARS",
    "bl WITH DOTScHcLID QUILT SQUARE ORNAMENTbb IN BLACK SQUAREfUSh WITH OVERBARcM SIGN",
    "cON WITH RIGHTWARDS ARROW ABOVEcRA SOMPENG DIGIT EIGHTtFIVEuOURtNINEtONEtSEVENuIXtTHREEuWO",
    "tZEROnLETTER AHuBAHuCAHuDAHuEEHvHuGAHuHAHuIHuJAHuKAHuLAHuMAEwHuNAHvGAHvYAHuOHuPAHuRAHuSAH",
    "uTAHuUHuVAHuYAHcScUND RECORDING COPYRIGHTdTH EAST ARROWq AND SOUTH WEST ARROW",
    "rCROSSING NORTH EAST ARROWrTO CORNERrWITH HOOKlBLACK ARROWlDOUBLE ARROWlPOINTING BUDuLEAF",
    "uVINE LEAFlSANS-SERIF ARROWlTRIANGLE-HEADED ARROWbg TO BARlWHITE ARROWgWEST ARROW",
    "q AND NORTH WEST ARROWrWITH HOOKlBLACK ARROWlDOUBLE ARROWlPOINTING BUDuLEAFuVINE LEAF",
    "lSANS-SERIF ARROWlTRIANGLE-HEADED ARROWbg TO BARlWHITE ARROWcYOMBO CLUSTER-INITIAL LETTER LA",
    "bfRAbfSAbgHAiFINAL CONSONANT SIGN -AbdBbdDbdGbdKbdLbdMbdNbeGbdRbdSbeHiGEMINATION MARK",
    "iHEAD MARK WITH MOON AND SUNbj AND FLAMEboTRIPLE FLAMEiLETTER -ApApBAqHApCAqHApDAqDArHAqHA",
    "qZApGAqHApHApJAqHApKAqHAqSSApLApMApNAqGAqNAqYApPAqHApRApSAqHAqSApTAqHAqSArHAqTArHApVApYApZA",
    "qHAiMARK DOUBLE SHADnPLUTAnSHADnTSHEGiSIGN ANUSVARAnJIHVAMULIYAnUPADHMANIYAnVISARGAjUBJOINER",
    "iTERMINAL MARK-1w2iVOWEL LENGTH MARKoSIGN AIuUtEtItOuEtUuEtVOCALIC LbbRbPcAdCEdGHETTIdRKLEhS",
    "gING HEARTcEAK-NO-EVIL MONKEYfERh WITH CANCELLATION STROKEnONE SOUND WAVEnTHREE SOUND WAVES",
    "fING HEAD IN SILHOUETTEdECH BALLOONeDBOATdSMILO SIGNcHERICAL ANGLEp OPENING LEFTyUPcIDER",
    "g WEBdRAL CALENDAR PADhNOTE PADhSHELLcLASHING SWEAT SYMBOLcONGEdOL OF THREADeNdRTS MEDAL",
    "dUTING WHALEbQUARE A OVER MiARUiMiNPEAiPAATOiRUHUAiUhBAARERUjRiEETAiIRUiORUTOiQiUSSYERU",
    "hC OVER KGiALjPiCiDiMj CUBEDkSQUAREDiOjRPORATIONiUPhDAjASUiBiESIiJiLiMj CUBEDkSQUAREDiORU",
    "hEEKAAiRA NAME HEISEIqMEIZIqREIWAqSYOUWAqTAISYOUjGiSUKUUDOiVhFMiOOTjUR CORNERShGALjNMAjRONiB",
    "iHZiIGAjNIIjRUDAAiPAiURAMUnTONiYhHAjITUiEKUTAARUjRUTUiGiIRAGANA HOKAiONjONkRUiPjAiUARADDO",
    "jIITOjRANiZhIMAGE OFp OR EQUAL TOtNOT EQUAL TOiNjINGUjTIiUhK OHMiAjIRIjRATTOkORIIiBiCALiEESU",
    "iGiHZiIROlGURAMUlMEETORUlWATTOiKiLiMj CAPITALlUBEDkSQUAREDiOOPOjRUNAiPAiTiUROONEkUZEIROiViW",
    "iYURIIhLEFT OPEN BOX OPERATORiMiNiOGjZENGEiXhM CUBEDjOHMkVER Sp SQUAREDjSQUAREDiAjHHAjIKURO",
    "kRUjNSYONjRUKUiBj SMALLiEETORUjGAlTONiGiHZiIKURONjLjRIlBAARUiLiMj CUBEDkSQUAREDiOLiPAiSiU A",
    "kFkGkLkMkSkVkWiVj MEGAiWj MEGAhNAjNOiFiMiOTTOiSiViWhONSUiOMUiRIGINAL OFs OR EQUAL TO",
    "wNOT EQUAL TOiVhPAj AMPSjASENTOkTUiCiEEZIjNIHIkSUjSOiFiHiIASUTORUjKOkURUiMiOINTOjNDO",
    "jSITION INDICATORiPMiRiSiViWhRADk OVER Sr SQUAREDiEMUjNTOGENiIGHT OPEN BOX OPERATORjRAjTTORU",
    "iOOTiUPIIjUBURUhSAIKURUjNTIIMUiENTIlOiIRINGUiRiVhTARGETiHZiONhUONhV OVER MhWATTOiB",
    "iITH BOTTOM HALF BLACKmCONTOURED OUTLINEmDIAGONAL CROSSHATCH FILLmHORIZONTAL FILL",
    "mLEFT HALF BLACKnOWER LEFT DIAGONAL HALF BLACKsRIGHT DIAGONAL HALF BLACK",
    "mORTHOGONAL CROSSHATCH FILLmRIGHT HALF BLACKmTOP HALF BLACKmUPPER LEFT DIAGONAL HALF BLACK",
    "xTO LOWER RIGHT FILLsRIGHT DIAGONAL HALF BLACKyTO LOWER LEFT FILLmVERTICAL FILLhYAADOkRUiUAN",
    "gD ASTERISKiCJK UNIFIED IDEOGRAPH-4E00bh9bg2Dbg8CbgA4be518Dbf21Dbg4Dbg72bf3CCbgF3bf408bg39",
    "bf5B6bf8F0bf91Abg29bfB57bfDE6bfF8Cbe624Bbg53bg95bf307bg55bf599bgB0bf620bf708bh9bfE80bfF14",
    "be7121bf51Fbg33bf981bfA7AbfD42be89E3bfCA9bfD70be904Abf14DjLjOOLiDOT OPERATORiEIGHT K",
    "iFALLING DIAGONAL SLASHjIVE POINT ONEjOUR DOT PUNCTUATIONnKjREEiHCjDRjI-RESjViIDiKATAKANA DE",
    "rKOKOrSAjEYiLATIN CAPITAL LETTER AbdBbdCbdDbdEbdFbdGbdHbdIbdJbdKbdLbdMbdNbdObdPbdQbdRbdSbdT",
    "bdUbdVbdWbdXbdYbdZoSMALL LETTER DjOGICAL ANDqORkSSLESSiMINUSjViNEWjGiOKjNE HUNDRED TWENTY P",
    "iPLUSjPViRISING DIAGONAL SLASHiSALTIREjDjECOND SCREENkVEN POINT ONEjHVjIXTY PjMALL CIRCLEjOS",
    "jQUAREjSiTHREE DjIMESjWENTY-TWO POINT TWOkO KiUHDjP WITH EXCLAMATION MARKiVODjSiWC",
    "eT BLACK RIGHTWARDS ARROWdIDbS2c3cAbTcADIUMdFF OF AESCULAPIUSjHERMESdMPED ENVELOPE",
    "dNDING PERSONdR AND CRESCENTfEQUALSfOF DAVIDgPERATORfWITH LEFT HALF BLACKkRIGHT HALF BLACK",
    "eT OF GUARDED AREAjHEADINGjPROTECTED AREAjSELECTED AREAkTRINGjTEXTdTIONeUE OF LIBERTY",
    "cEAM LOCOMOTIVEfING BOWLdNOGRAPHIC FULL STOPdTHOSCOPEcICK FIGUREm LEANING LEFTvRIGHT",
    "nWITH ARMS RAISEDsDRESScOCK CHARTdPWATCHcRAIGHT RULERiNESSeWBERRYdESS OUTLINED WHITE STAR",
    "dICTLY EQUIVALENT TOeNG TERMINATORcScUDIO MICROPHONEdFFED FLATBREADdPAcXbUBdSCRIPT EIGHT",
    "lQUALS SIGNkFIVElOURkLEFT PARENTHESISkMINUSkNINEkONEkPLUS SIGNkRIGHT PARENTHESISkSEVENlIX",
    "kTHREElWOkZEROeET ABOVE RIGHTWARDS ARROWnSUBSETpPERSEThOFj ABOVE ALMOST EQUAL TOqEQUALS SIGN",
    "qNOT EQUAL TOqTILDE OPERATORkOR EQUAL TOv WITH DOT ABOVEkWITH NOT EQUAL TOhWITH DOT",
    "mMULTIPLICATION SIGN BELOWmPLUS SIGN BELOWeTITUTEcCCEEDSi ABOVE ALMOST EQUAL TOpEQUALS SIGN",
    "pNOT ALMOST EQUAL TOtEQUAL TOpSINGLE-LINE EQUALS SIGNbbNOT EQUAL TOjBUT NOT EQUIVALENT TO",
    "jOR EQUAL TOpIVALENT TOjUNDER RELATIONcMMATION BOTTOMkTOPkWITH INTEGRALcNd BEHIND CLOUD",
    "eWITH FACEdDANESE AVAGRAHAkCONSONANT SIGN PAMINGKALbbNYAKRAbdIKUbbSANGAN MAbiWAkDIGIT EIGHT",
    "qFIVErOURqNINEqONEqSEVENrIXqTHREErWOqZEROkLETTER AsErBAsHArCArDArEsUrFAsINAL KxMrGArHArIrJA",
    "rKAsHArLAsEUrMArNAsGAsYArOrPArQArRAsEUrSAsYArTArUrVArWArXArYArZA",
    "kPUNCTUATION BINDU BA SATANGAbcCAKRAbcDA SATANGAbcKA SATANGAbcLEU SATANGAbcPANGLONGbdURNAMA",
    "bcSURYAkSIGN PAMAAEHrNGLAYARtWISADsYECEKpVIRAMAkVOWEL SIGN PAMEPETxNAELAENGyEULEUNGyGHULU",
    "yOLONGyYUKUdFLOWERdRISEh OVER MOUNTAINSdSET OVER BUILDINGScPERHEROfSCRIPT EIGHTnQUALS SIGN",
    "mFIVEnOURmLATIN SMALL LETTER IbfNnEFT PARENTHESISmMINUSmNINEmONEmPLUS SIGNmRIGHT PARENTHESIS",
    "mSEVENnIXmTHREEnWOmZEROgET ABOVE LEFTWARDS ARROWpSUBSETrPERSET",
    "jBESIDE AND JOINED BY DASH WITH SUBSETqSUBSETjOFl ABOVE ALMOST EQUAL TOsEQUALS SIGN",
    "sNOT EQUAL TOsTILDE OPERATORmOR EQUAL TOx WITH DOT ABOVEmWITH NOT EQUAL TOjPRECEDING SOLIDUS",
    "jWITH DOToMULTIPLICATION SIGN BELOWoPLUS SIGN BELOWfVILLAINcRFACE INTEGRALeERcSHI",
    "dPENSION RAILWAYbWANdSH AMPERSAND ORNAMENTcIMMERcUNG DASHbYLOTI NAGRI LETTER AuBHOvOuCHOvO",
    "uDDHOwOvHOvOuEuGHOvOuHOuIuJHOvOuKHOvOuLOuMOuNOuOuPHOvOuROvROuSOuTHOvOvTHOwOuUnPOETRY MARK-1",
    "z2z3z4nSIGN ALTERNATE HASANTAtNUSVARAsDVISVARAsHASANTAnVOWEL SIGN AyEyIyOOyU",
    "cMBOL FOR ACKNOWLEDGElBACKSPACEmELLlCANCELnRRIAGE RETURNlDATA LINK ESCAPEmELETEr FORM TWO",
    "nVICE CONTROL FOURbaONEbaTHREEbbWOlEND OF MEDIUMsTEXTtRANSMISSIONbe BLOCKnQUIRYmSCAPE",
    "lFILE SEPARATORmORM FEEDlGROUP SEPARATORlHORIZONTAL TABULATIONlLINE FEEDlMARKS CHAPTER",
    "lNEGATIVE ACKNOWLEDGEnWLINEmULLlRECORD SEPARATORlSAMARITAN SOURCEmHIFT INrOUTmPACE",
    "mTART OF HEADINGuTEXTmUBSTITUTEv FORM TWOmYNCHRONOUS IDLElTYPE A ELECTRONICSlUNIT SEPARATOR",
    "lVERTICAL TABULATIONdMETRYcNdAGOGUEdCHRONOUS IDLEcRIAC ABBREVIATION MARKhBARREKH",
    "hCOLON SKEWED LEFTuRIGHTjNTRACTIONhDOTTED ZLAMA ANGULARuHORIZONTALhEND OF PARAGRAPH",
    "iSASA ABOVEnBELOWhFEMININE DOThHARKLEAN ASTERISCUSqMETOBELUSqOBELUSiBASA ABOVEnBELOW",
    "m-ESASA DOTTEDiORIZONTAL COLONhLETTER ALAPHoBETHoDALATHpOTLESS DALATH RISHoEoFINAL SEMKATH",
    "oGAMALt GARSHUNIoHEqTHoKAPHoLAMADHoMALAYALAM BHAyJAyLLAbaLAyNGAzNAbaNAzYAyRAySSAyTTApIMoNUN",
    "oPEqRSIAN BHETHwDHALATHwGHAMALoQAPHoREVERSED PEpISHoSADHEpEMKATHpHINpOGDIAN FEwKHAPHwZHAIN",
    "pUPERSCRIPT ALAPHoTAWpETHs GARSHUNIoWAWoYUDHs HEoZAINhMUSIChOBLIQUE LINE ABOVEuBELOW",
    "hPTHAHA ABOVEoBELOWoDOTTEDhQUSHSHAYAhRBASA ABOVEnBELOWiUKKAKHAiWAHAhSUBLINEAR COLON",
    "w SKEWED LEFTbeRIGHTrFULL STOPjPRALINEAR COLONy SKEWED LEFTtFULL STOPhTHREE DOTS ABOVEsBELOW",
    "iWO VERTICAL DOTS ABOVEzBELOWhZQAPHA ABOVEoBELOWoDOTTEDeNGE"]

end NetPlan.Text.CharacterName
