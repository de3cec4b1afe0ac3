/-!
# Names of characters: M, N and O

The names of characters that start with the letters M, N and O, as rows of a table.
-/

namespace NetPlan.Text.CharacterName

/-- The names that start with M. -/
def rowsM : List String :=
  ["aMACRONcGEdIC WANDdNETcHAJANI ABBREVIATION SIGNjLETTER AqBArHAqCArHAqDArDAsHArHAqEqGArHAqHA",
    "qIqJArHAqKArHAqLAqMAqNArNArYAqOqPArHAqRArRAqSAqTArHArTAsHAqUqVAkIGATURE SHRIjSECTION MARK",
    "kIGN NUKTAdJONG TILE AUTUMNnBACKpMBOOnCHRYSANTHEMUMnEAST WINDoIGHT OF BAMBOOSwCHARACTERS",
    "xIRCLESnFIVE OF BAMBOOSvCHARACTERSwIRCLESoOUR OF BAMBOOSvCHARACTERSwIRCLESnGREEN DRAGON",
    "nJOKERnNINE OF BAMBOOSvCHARACTERSwIRCLESoORTH WINDnONE OF BAMBOOSuCHARACTERSvIRCLESoRCHID",
    "nPLUMnRED DRAGONnSEVEN OF BAMBOOSwCHARACTERSxIRCLESoIX OF BAMBOOSuCHARACTERSvIRCLES",
    "oOUTH WINDoPRINGoUMMERnTHREE OF BAMBOOSwCHARACTERSxIRCLESoWO OF BAMBOOSuCHARACTERSvIRCLES",
    "nWEST WINDoHITE DRAGONoINTERcKASAR ANGKAiEND OF SECTIONiLETTER ApBApCApDApGApJApKApLApMApNA",
    "qGAqYApPApRApSApTApVApYAiPASSIMBANGiVOWEL SIGN EtItOtUcLAYALAM AU LENGTH MARKkDATE MARK",
    "lIGIT EIGHTqFIVErOURqNINEqONEqSEVENrIXqTHREErWOqZEROkFRACTION ONE EIGHTHxFIFTHyORTIETHxHALF",
    "xONE-HUNDRED-AND-SIXTIETHxQUARTERxSIXTEENTHxTENTHyWENTIETHtTHREE EIGHTIETHSzQUARTERS",
    "zSIXTEENTHSzTWENTIETHSkLETTER AsAsIsRCHAIC IIsUrBAsHArCAsHAtILLU KyLzLbaLyMyNzNyRRyYrDAsDA",
    "tHAsHAsOT REPHrEsErGAsHArHArIsIrJAsHArKAsHArLAsLAtLArMArNAsGAsNAtNAsYArOsOrPAsHArRAsRArSAsHA",
    "sSArTAsHAsTAtHAtTArUsUrVAsEDIC ANUSVARAsOCALIC LbaLzRbaRrYAkNUMBER ONE HUNDREDvTHOUSANDrTEN",
    "kSIGN ANUSVARAqVAGRAHApCANDRABINDUqIRCULAR VIRAMAqOMBINING ANUSVARA ABOVEpPARA",
    "pVERTICAL BAR VIRAMAqIRAMArSARGAkVOWEL SIGN AAwIwUvEwEvIwIvOwOvUwUvVOCALIC LbeLbdRbeR",
    "dE AND FEMALE SIGNfSIGNfWITH STROKE AND MALE AND FEMALE SIGNrSIGNdTESE CROSScMMOTHcN",
    "d AND WOMAN HOLDING HANDSeDANCINGeIN BUSINESS SUIT LEVITATINGhTUXEDOeWITH GUA PI MAOjTURBAN",
    "dAT SIGNdDAIC AFFRICATION MARKiGEMINATION MARKiLETTER ABqDqGqHqINqKrSAqLqMqNqPqQqRqSrHrZqTrT",
    "qZpDUSHENNApHALQApINqTpKADpUSHENNAiPUNCTUATIONiVOCALIZATION MARKdGO",
    "dICHAEAN ABBREVIATION MARK ABOVEbdBELOWlLETTER AAYINtLEPHtYINsBETHtHETHsDALETHtHAMEDHsFE",
    "sGHIMELtIMELsHEuTHsJAYINtHAYINsKAPHtHAPHsLAMEDHsMEMsNUNsPEsQHOPHtOPHsRESHsSADHEuMEKHtHIN",
    "tSHINsTAWtETHtHAMEDHsWAWsXAPHtOPHsYODHsZAYINtHAYINlNUMBER FIVEsONEv HUNDREDsTENtWENTY",
    "lPUNCTUATION DOTba WITHIN DOTzUBLE DOT WITHIN DOTxFLEURONxLINE FILLERxSTARxTWO DOTSlSIGN UD",
    "dS SHOEdTELPIECE CLOCKdUAL WHEELCHAIRcP SYMBOL FOR LIGHTHOUSEdLE LEAFcRCHEN HEAD MARK",
    "iLETTER -ApApBApCAqHApDAqZApGApHApJApKAqHApLApMApNAqGAqYApPAqHApRApSAqHApTAqHAqSArHApWApYA",
    "pZAqHAiMARK SHADiSIGN ANUSVARAnCANDRABINDUjUBJOINED LETTER AzBAzCAbaHAzDAbaZAzGAzHAzJAzKA",
    "baHAzLAzMAzNAbaGAbaYAzPAbaHAzRAzSAbaHAzTAbaHAbaSAbbHAzWAzYAzZAbaHAiVOWEL SIGN AAtEtItOtU",
    "dRIAGE SYMBOLdTIAL ARTS UNIFORMcSARAM GONDI DIGIT EIGHTuFIVEvOURuNINEuONEuSEVENvIXuTHREEvWO",
    "uZEROoLETTER AwAwIwUvBAwHAvCAwHAvDAwDAxHAwHAvEvGAwHAvHAvIwIvJAwHAwNYAvKAwHAwSSAvLAwLAvMAvNA",
    "wGAwNAwYAvOvPAwHAvRAvSAwHAwSAvTAwHAwRAwTAxHAvUwUvVAvYAoRA-KARApEPHAoSIGN ANUSVARAtCANDRA",
    "tHALANTAtNUKTAtVISARGAoVIRAMApOWEL SIGN AAbaIbaUzEzIbaIzOzUbaUzVOCALIC R",
    "dCULINE ORDINAL INDICATORdK WORK SYMBOLdU MARKcTE DRINKdHEMATICAL BOLD CAPITAL AbbLPHAbaB",
    "bbETAbaCbbHIbaDbbELTAbbIGAMMAbaEbbPSILONbbTAbaFbaGbbAMMAbaHbaIbbOTAbaJbaKbbAPPAbaLbbAMDAbaM",
    "bbUbaNbbUbaObbMEGAbcICRONbaPbbHIbbIbbSIbaQbaRbbHObaSbbIGMAbaTbbAUbbHETAbf SYMBOLbaUbbPSILON",
    "baVbaWbaXbbIbaYbaZbbETAsDIGIT EIGHTyFIVEzOURyNINEyONEySEVENzIXyTHREEzWOyZEROsEPSILON SYMBOL",
    "sFRAKTUR CAPITAL AbiBbiCbiDbiEbiFbiGbiHbiIbiJbiKbiLbiMbiNbiObiPbiQbiRbiSbiTbiUbiVbiWbiXbiY",
    "biZbaSMALL AbgBbgCbgDbgEbgFbgGbgHbgIbgJbgKbgLbgMbgNbgObgPbgQbgRbgSbgTbgUbgVbgWbgXbgYbgZ",
    "sITALIC CAPITAL AbiLPHAbhBbiETAbhCbiHIbhDbiELTAbhEbiPSILONbiTAbhFbhGbiAMMAbhHbhIbiOTAbhJbhK",
    "biAPPAbhLbiAMDAbhMbiUbhNbiUbhObiMEGAbjICRONbhPbiHIbiIbiSIbhQbhRbiHObhSbiIGMAbhTbiAUbiHETA",
    "bm SYMBOLbhUbiPSILONbhVbhWbhXbiIbhYbhZbiETAzEPSILON SYMBOLzKAPPA SYMBOLzNABLA",
    "zPARTIAL DIFFERENTIALbaHI SYMBOLbaI SYMBOLzRHO SYMBOLzSMALL AbgLPHAbfBbgETAbfCbgHIbfDbgELTA",
    "bfEbgPSILONbgTAbfFbgINAL SIGMAbfGbgAMMAbfHbfIbgOTAbfJbfKbgAPPAbfLbgAMDAbfMbgUbfNbgUbfObgMEGA",
    "bhICRONbfPbgHIbgIbgSIbfQbfRbgHObfSbgIGMAbfTbgAUbgHETAbfUbgPSILONbfVbfWbfXbgIbfYbfZbgETA",
    "zTHETA SYMBOLsKAPPA SYMBOLsNABLAsPARTIAL DIFFERENTIALtHI SYMBOLtI SYMBOLsRHO SYMBOL",
    "sSCRIPT CAPITAL AbhBbhCbhDbhEbhFbhGbhHbhIbhJbhKbhLbhMbhNbhObhPbhQbhRbhSbhTbhUbhVbhWbhXbhYbhZ",
    "zSMALL AbfBbfCbfDbfEbfFbfGbfHbfIbfJbfKbfLbfMbfNbfObfPbfQbfRbfSbfTbfUbfVbfWbfXbfYbfZtMALL A",
    "zLPHAyBzETAyCzHIyDzELTAzIGAMMAyEzPSILONzTAyFzINAL SIGMAyGzAMMAyHyIzOTAyJyKzAPPAyLzAMDAyMzUyN",
    "zUyOzMEGAbaICRONyPzHIzIzSIyQyRzHOySzIGMAyTzAUzHETAyUzPSILONyVyWyXzIyYyZzETAsTHETA SYMBOL",
    "nDOUBLE-STRUCK CAPITAL AbjBbjDbjEbjFbjGbjIbjJbjKbjLbjMbjObjSbjTbjUbjVbjWbjXbjYbbDIGIT EIGHT",
    "bhFIVEbiOURbhNINEbhONEbhSEVENbiIXbhTHREEbiWObhZERObbSMALL AbhBbhCbhDbhEbhFbhGbhHbhIbhJbhKbhL",
    "bhMbhNbhObhPbhQbhRbhSbhTbhUbhVbhWbhXbhYbhZnFALLING DIAGONALoRAKTUR CAPITAL AbdBbdDbdEbdFbdG",
    "bdJbdKbdLbdMbdNbdObdPbdQbdSbdTbdUbdVbdWbdXbdYvSMALL AbbBbbCbbDbbEbbFbbGbbHbbIbbJbbKbbLbbMbbN",
    "bbObbPbbQbbRbbSbbTbbUbbVbbWbbXbbYbbZnITALIC CAPITAL AbdLPHAbcBbdETAbcCbdHIbcDbdELTAbcE",
    "bdPSILONbdTAbcFbcGbdAMMAbcHbcIbdOTAbcJbcKbdAPPAbcLbdAMDAbcMbdUbcNbdUbcObdMEGAbeICRONbcPbdHI",
    "bdIbdSIbcQbcRbdHObcSbdIGMAbcTbdAUbdHETAbh SYMBOLbcUbdPSILONbcVbcWbcXbdIbcYbcZbdETA",
    "uEPSILON SYMBOLuKAPPA SYMBOLuNABLAuPARTIAL DIFFERENTIALvHI SYMBOLvI SYMBOLuRHO SYMBOL",
    "uSMALL AbbLPHAbaBbbETAbaCbbHIbaDbbELTAbbOTLESS IbiJbaEbbPSILONbbTAbaFbbINAL SIGMAbaGbbAMMA",
    "baIbbOTAbaJbaKbbAPPAbaLbbAMDAbaMbbUbaNbbUbaObbMEGAbcICRONbaPbbHIbbIbbSIbaQbaRbbHObaSbbIGMA",
    "baTbbAUbbHETAbaUbbPSILONbaVbaWbaXbbIbaYbaZbbETAuTHETA SYMBOLnLEFT ANGLE BRACKET",
    "sDOUBLE ANGLE BRACKETsFLATTENED PARENTHESISsWHITE SQUARE BRACKETyTORTOISE SHELL BRACKET",
    "nMONOSPACE CAPITAL AbfBbfCbfDbfEbfFbfGbfHbfIbfJbfKbfLbfMbfNbfObfPbfQbfRbfSbfTbfUbfVbfWbfXbfY",
    "bfZxDIGIT EIGHTbdFIVEbeOURbdNINEbdONEbdSEVENbeIXbdTHREEbeWObdZEROxSMALL AbdBbdCbdDbdEbdFbdG",
    "bdHbdIbdJbdKbdLbdMbdNbdObdPbdQbdRbdSbdTbdUbdVbdWbdXbdYbdZnRIGHT ANGLE BRACKET",
    "tDOUBLE ANGLE BRACKETtFLATTENED PARENTHESIStWHITE SQUARE BRACKETzTORTOISE SHELL BRACKET",
    "pSING DIAGONALnSANS-SERIF BOLD CAPITAL AbmLPHAblBbmETAblCbmHIblDbmELTAblEbmPSILONbmTAblFblG",
    "bmAMMAblHblIbmOTAblJblKbmAPPAblLbmAMDAblMbmUblNbmUblObmMEGAbnICRONblPbmHIbmIbmSIblQblRbmHO",
    "blSbmIGMAblTbmAUbmHETAbq SYMBOLblUbmPSILONblVblWblXbmIblYblZbmETAbdDIGIT EIGHTbjFIVEbkOUR",
    "bjNINEbjONEbjSEVENbkIXbjTHREEbkWObjZERObdEPSILON SYMBOLbdITALIC CAPITAL AbtLPHAbsBbtETAbsC",
    "btHIbsDbtELTAbsEbtPSILONbtTAbsFbsGbtAMMAbsHbsIbtOTAbsJbsKbtAPPAbsLbtAMDAbsMbtUbsNbtUbsO",
    "btMEGAbuICRONbsPbtHIbtIbtSIbsQbsRbtHObsSbtIGMAbsTbtAUbtHETAbx SYMBOLbsUbtPSILONbsVbsWbsXbtI",
    "bsYbsZbtETAbkEPSILON SYMBOLbkKAPPA SYMBOLbkNABLAbkPARTIAL DIFFERENTIALblHI SYMBOLblI SYMBOL",
    "bkRHO SYMBOLbkSMALL AbrLPHAbqBbrETAbqCbrHIbqDbrELTAbqEbrPSILONbrTAbqFbrINAL SIGMAbqGbrAMMA",
    "bqHbqIbrOTAbqJbqKbrAPPAbqLbrAMDAbqMbrUbqNbrUbqObrMEGAbsICRONbqPbrHIbrIbrSIbqQbqRbrHObqS",
    "brIGMAbqTbrAUbrHETAbqUbrPSILONbqVbqWbqXbrIbqYbqZbrETAbkTHETA SYMBOLbdKAPPA SYMBOLbdNABLA",
    "bdPARTIAL DIFFERENTIALbeHI SYMBOLbeI SYMBOLbdRHO SYMBOLbdSMALL AbkLPHAbjBbkETAbjCbkHIbjD",
    "bkELTAbjEbkPSILONbkTAbjFbkINAL SIGMAbjGbkAMMAbjHbjIbkOTAbjJbjKbkAPPAbjLbkAMDAbjMbkUbjNbkUbjO",
    "bkMEGAblICRONbjPbkHIbkIbkSIbjQbjRbkHObjSbkIGMAbjTbkAUbkHETAbjUbkPSILONbjVbjWbjXbkIbjYbjZ",
    "bkETAbdTHETA SYMBOLyCAPITAL AbgBbgCbgDbgEbgFbgGbgHbgIbgJbgKbgLbgMbgNbgObgPbgQbgRbgSbgTbgUbgV",
    "bgWbgXbgYbgZyDIGIT EIGHTbeFIVEbfOURbeNINEbeONEbeSEVENbfIXbeTHREEbfWObeZEROyITALIC CAPITAL A",
    "bnBbnCbnDbnEbnFbnGbnHbnIbnJbnKbnLbnMbnNbnObnPbnQbnRbnSbnTbnUbnVbnWbnXbnYbnZbfSMALL AblBblC",
    "blDblEblFblGblHblIblJblKblLblMblNblOblPblQblRblSblTblUblVblWblXblYblZySMALL AbeBbeCbeDbeEbeF",
    "beGbeHbeIbeJbeKbeLbeMbeNbeObePbeQbeRbeSbeTbeUbeVbeWbeXbeYbeZoCRIPT CAPITAL AbcCbcDbcGbcJbcK",
    "bcNbcObcPbcQbcSbcTbcUbcVbcWbcXbcYbcZuSMALL AbaBbaCbaDbaFbaHbaIbaJbaKbaLbaMbaNbaPbaQbaRbaSbaT",
    "baUbaVbaWbaXbaYbaZcXIMIZEcYAN NUMERAL EIGHTtEENpLEVENoFIFTEENqVEpOURsTEENoNINEsTEENoONE",
    "oSEVENtTEENpIXrTEENoTENpHIRTEENqREEpWELVEqOoZERObEASURED ANGLEo OPENING LEFT",
    "pWITH OPEN ARM ENDING IN ARROW POINTING DOWN AND LEFTclRIGHTccLEFT AND DOWNclUP",
    "ccRIGHT AND DOWNcmUPccUP AND LEFTcjRIGHTjBYjRIGHT ANGLE WITH DOTdT ON BONEcCHANICAL ARMlLEG",
    "cDEFAIDRIN CAPITAL LETTER AbcIbcTIUbbBbbCbbDbbEbbFbbGbbHbcPbbIbbJbbKbcPbbLbbMbbNbcGbcYbbObcE",
    "bbPbbQbbRbbSbbTbbUbbVbbWbbXbbYbcUbbZnOMMAmDIGIT EIGHTsFIVEtOURsNINEsONEv ALTERNATE FORM",
    "sSEVENtIXsTHREEx ALTERNATE FORMtWOv ALTERNATE FORMsZEROmEXCLAMATION OHmFULL STOP",
    "mNUMBER EIGHTEENuLEVENtFIFTEENuOURTEENtNINETEENtSEVENTEENuIXTEENtTENuHIRTEENuWELVE",
    "mSMALL LETTER AbaIbaTIUzBzCzDzEzFzGzHbaPzIzJzKbaPzLzMzNbaGbaYzObaEzPzQzRzSzTzUzVzWzXzYbaUzZ",
    "nYMBOL AIVAdIEVAL COMMAjEXCLAMATION MARKjQUESTION MARKeUM BLACK CIRCLEiOLD WHITE CIRCLE",
    "hEIGHT POINTED BLACK STARnSPOKED ASTERISKhFIVE SPOKED ASTERISK",
    "iLATTENED LEFT PARENTHESIS ORNAMENTrRIGHT PARENTHESIS ORNAMENTiOUR POINTED BLACK STAR",
    "uPINWHEEL STARhGREEK CROSShLEFT CURLY BRACKET ORNAMENTmPARENTHESIS ORNAMENT",
    "l-POINTING ANGLE BRACKET ORNAMENThMATHEMATICAL SPACEhRIGHT CURLY BRACKET ORNAMENT",
    "nPARENTHESIS ORNAMENTm-POINTING ANGLE BRACKET ORNAMENThSALTIREiHADEiIX POINTED BLACK STAR",
    "lSPOKED ASTERISKiMALL WHITE CIRCLEhTHREE POINTED BLACK STARvPINWHEEL STARhVERTICAL BAR",
    "hWHITE CIRCLEnSQUAREcETEI MAYEK AHANG KHUDAMoNJIoPUN IYEKnCHEIKHANtEInDIGIT EIGHTtFIVEuOUR",
    "tNINEtONEtSEVENuIXtTHREEuWOtZEROnLETTER ATIYAuBAvHAMuCHAwILuDDAwHAvHOUvILuEuGHOUvOKuHUKuI",
    "v LONSUMuJHAMvILuKHOUvOKx LONSUMuLAIx LONSUMuMITx LONSUMuNAw LONSUMvGOUy LONSUMvNAvYAuOuPA",
    "w LONSUMvHAMuRAIuSAMvHAvSAuTHOUvILx LONSUMvTAwHAuUNuWAIuYANGoUM IYEK",
    "nSYLLABLE REPETITION MARKnVIRAMAoOWEL SIGN AAIbaUzNAPzUyCHEINAPyIIzNAPyNUNGyONAPySOUNAPyUNAP",
    "zUyVISARGAyYENAPnWORD REPETITION MARKcLONdTING FACEcMO",
    "cNDE KIKAKUI COMBINING NUMBER HUNDRED THOUSANDSbmSbfMILLIONSbfTEENSbhN THOUSANDSbiS",
    "bgHOUSANDSoDIGIT EIGHTuFIVEvOURuNINEuONEuSEVENvIXuTHREEvWOoSYLLABLE M001 KIba2 KAba3 KU",
    "ba4 WIba5 WAba6 WUba7 MINba8 MANba9 MUNz10 BIba1 BAba2 BUba3 Iba4 Aba5 Uba6 DIba7 DAba8 DU",
    "ba9 SIz20 SAba1 SUba2 TIba3 TAba4 TUba5 LIba6 LAba7 LUba8 JIba9 JAz30 JUba1 YIba2 YAba3 YU",
    "ba4 FIba5 FAba6 FUba7 NINba8 NANba9 NUNz40 HEEba1 HAba2 HOOba3 NGGAba4 KPEEba5 WOba6 HUAN",
    "ba7 MBEEba8 KOba9 WVAz50 PUba1 PEba2 HENba3 HINba4 LOOba5 TEba6 GBAba7 NGONba8 NYANba9 MEN",
    "z60 NYONba1 WVIba2 MBAba3 JOba4 NDOba5 KEEba6 POba7 NDOOba8 PIba9 TOz70 GBOba1 GBOOba2 MBE",
    "ba3 LEba4 KPUba5 FEba6 KOOba7 VOba8 FEEba9 SOz80 YEba1 PEEba2 NGGUba3 HEEIba4 LEEba5 VE",
    "ba6 LONG NGGEba7 HUNba8 FOba9 DEEz90 NGGIba1 TEEba2 KPAba3 GBEEba4 MONba5 KEba6 HEba7 BE",
    "ba8 NYENba9 PAy100 Eba1 FANba2 POOba3 BOOba4 TOOba5 LONG MBOOba6 LONG NGGOOba7 GBEba8 KPE",
    "ba9 YEEz10 LONG LEba1 GAba2 KPOOba3 JEba4 WOOba5 NGGEEba6 SEba7 NENba8 WEba9 NDEz20 NGGO",
    "ba1 YOba2 MBUba3 NDIba4 GBIba5 NDUba6 WEEba7 NGGUAba8 HOOUba9 NDAz30 HANba1 INba2 KPIba3 FOO",
    "ba4 NJOOba5 INba6 SOOba7 EIba8 BOba9 WVEz40 HOba1 YOOba2 LONG MBOba3 WEIba4 VOOba5 MBI",
    "ba6 NGGEba7 Oba8 GBUba9 NJEEz50 BEEba1 VUba2 NJAba3 LOba4 MUANba5 GIba6 NGGOOba7 JEEba8 KPO",
    "ba9 NGGAAz60 JOOba1 LONG MBEba2 SEEba3 EEba4 NYINba5 OOba6 GUEIba7 GUANba8 GUba9 NONz70 NYUN",
    "ba1 RAba2 MBOOba3 VEEba4 MBOba5 LONG JOba6 HIba7 NGUANba8 ENba9 KUAz80 DOOba1 DOba2 VI",
    "ba3 LONG NGGOba4 NGENba5 VAba6 HUba7 MBUUba8 MBEEba9 MUENz90 GEEba1 NDEEba2 NJUba3 HON",
    "ba4 WUIba5 ANba6 SIAba7 FUAdORAH WITH NINE BRANCHESdS SYMBOLcRCURY",
    "dOITIC CURSIVE FRACTION EIGHT TWELFTHSbbLEVEN TWELFTHSbaFIVE TWELFTHSbbOUR TWELFTHS",
    "baNINE TWELFTHSbaONE HALFbeTWELFTHbaSEVEN TWELFTHSbbIX TWELFTHSbaTEN TWELFTHSbbHREE TWELFTHS",
    "bbWO TWELFTHSrLETTER AzRCHAIC SAyBAyDAyEyHHAyIyKAzHAyLAyMAyNAzEyOyPAyQAyRAySAzEyTAzEzOyWAyYA",
    "sOGOGRAM IMNbaRMTrNUMBER EIGHTbd HUNDREDbl THOUSANDbeTHOUSANDbdY THOUSANDyFIFTYbd THOUSAND",
    "baVEbc HUNDREDbk THOUSANDbdTHOUSANDzORTYbd THOUSANDbaURbc HUNDREDbk THOUSANDbdTHOUSANDyNINE",
    "bc HUNDREDbk THOUSANDbdTHOUSANDbcTY THOUSANDyONEbb HUNDREDbj THOUSANDbcTHOUSANDySEVEN",
    "bd HUNDREDbl THOUSANDbeTHOUSANDbdTYbf THOUSANDzIXbb HUNDREDbj THOUSANDbcTHOUSANDbbTY",
    "bd THOUSANDyTENbb THOUSANDzHIRTYbe THOUSANDbaREEbd HUNDREDbl THOUSANDbeTHOUSANDzWENTY",
    "be THOUSANDbaObb HUNDREDbj THOUSANDbcTHOUSANDjHIEROGLYPHIC LETTER AbdBAbf-2bdDAbdEbdHHAbdI",
    "bdKAbeHAbdLAbdMAbdNAbf-2beEbf-2bdObdPAbdQAbdRAbf-2bdSAbf-2beEbdTAbf-2beEbf-2beObdWAbdYA",
    "wSYMBOL VIDJbh-2dPERSONcSSAGE WAITINGcTRICAL BREVEjLONG OVER SHORTtTWO SHORTSjPENTASEME",
    "jSHORT OVER LONGjTETRASEMEkRISEMEkWO SHORTS JOINEDuOVER LONGeObIAO LETTER AHnRCHAIC MAuNAvGA",
    "uZZAmBAnRImDAnDAnLHApYAnZAoHAoYIoZAmFAmGAnHAoHAmHAnHAmKAmLAnHAoYAnYAmMAnHAmNAoSALIZATIONnGA",
    "oHAnHAnNAoHAnYAoHAmPAnLAmQAnGAmREFORMED TONE-1ba2ba4ba5ba6ba8wSHAnTEmSAnHAnSAnYImTAnEnLHApYA",
    "nONE-2r3r4r5r6r7r8nSAoEoHAoSAnTAmVAnFAmWAmXAmYI DZHApKApNNApPApTAqSArHAqTAmZAnHAnSAoHAnZAoSA",
    "pYAoYAfSIGN ASPIRATIONkCONSONANT MODIFIER BARkREFORMED ASPIRATIONtVOICINGfTONE ABOVEkBELOW",
    "kRIGHTkTOP RIGHTfVOWEL SIGN ArArEsErHHrIrNsGrUqErArIrNsGrRsRqIrAsNtGrErGrIrNGrOsNGrUqNrGqO",
    "rERsYrGrOrUqROUNDED ERbaRqUrAsNtGrEIrIrNGrOGrUqVWqWrOqYrIrUIcCR DASH SYMBOLfON US SYMBOL",
    "eO SIGNfBEfPHONEfSCOPEcDDLE DOThTHIRD WHITE RIGHT POINTING INDEXdLINE HORIZONTAL ELLIPSIS",
    "cLITARY HELMETjMEDALdKY WAYdL SIGNcNIBUSeDISCeMIZEdUS SIGNk IN TRIANGLElWITH COMMA ABOVE",
    "qDOT BELOWqFALLING DOTSqRISING DOTSgTILDEf-OR-PLUS SIGNdYcRRORg BALLbMSPbOBILE PHONEm OFF",
    "nWITH RIGHTWARDS ARROW AT LEFTcDELSeRN PENTATHLONdI ABBREVIATION SIGNfDANDAgIGIT EIGHTlFIVE",
    "mOURlNINElONElSEVENmIXlTHREEmWOlZEROgOUBLE DANDAfLETTER AnAnInUmBAnHAmCAnHAmDAnDAoHAnHAmEmGA",
    "nHAmHAmInImJAnHAmKAnHAmLAnLAmMAmNAnGAnNAnYAmOmPAnHAmRAmSAnHAnSAmTAnHAnTAoHAmUnUmVAnOCALIC L",
    "vLuRvRmYAfSIGN ANUSVARAlRDHACANDRAkHUVAkVIRAMAmSARGAfVOWEL SIGN AArIrUqEqIrIqOqUrUqVOCALIC L",
    "zLyRzReFIER BREVE WITH INVERTED BREVEjLETTER ACUTE ACCENTrLVEOLAR CLICKrPOSTROPHE",
    "qBEGIN HIGH TONEwLOW TONErILABIAL CLICKqCAPITAL AzEyBzARRED ByCyDyEyFyGyHz WITH STROKEyIyJyK",
    "yLyMyNyOzUyPyQyRzEVERSED EbhNyTyUyVyWrENTRED LEFT HALF RINGyRIGHT HALF RING",
    "rHINESE TONE YANG PINGbiQUbiRUbiSHANGbeIN PINGbhQUbhRUbhSHANGrIRCUMFLEX ACCENTrOLON",
    "rROSS ACCENTrYRILLIC ENzHARD SIGNzSOFT SIGNqDENTAL CLICKrOT HORIZONTAL BARuSLASH",
    "uVERTICAL BARsUBLE APOSTROPHExPRIMEsWN ARROWHEADvTACKqEND HIGH TONEuLOW TONE",
    "rXTRA-HIGH DOTTED LEFT-STEM TONE BARbiTONE BARbbLEFT-STEM TONE BARbbTONE BAR",
    "wLOW DOTTED LEFT-STEM TONE BARbhTONE BARbaLEFT-STEM TONE BARbaTONE BARqGEORGIAN NAR",
    "rLOTTAL STOPbc WITH STROKErRAVE ACCENTqHALF TRIANGULAR COLONrIGH DOTTED LEFT-STEM TONE BAR",
    "bcTONE BARvLEFT-STEM TONE BARvTONE BARqLATERAL CLICKrEFT ARROWHEADvHALF RINGvTACK",
    "rOW ACUTE ACCENTuCIRCUMFLEX ACCENTuDOTTED LEFT-STEM TONE BARbbTONE BARwWN ARROWHEAD",
    "uGRAVE ACCENTuINVERTED EXCLAMATION MARKuLEFT ARROWbeHEADy-STEM TONE BARuMACRON",
    "uRIGHT ARROWHEADwNGuTILDEvONE BARuUP ARROWHEADuVERTICAL LINEtER RIGHT CORNER ANGLEqMACRON",
    "rID DOTTED LEFT-STEM TONE BARbbTONE BARuLEFT-STEM TONE BARuTONE BARtDLE DOUBLE ACUTE ACCENT",
    "beGRAVE ACCENTxGRAVE ACCENTsNUS SIGNqOPEN SHELFqPLUS SIGNrRIMEqRAISED COLONxDOWN ARROW",
    "xEXCLAMATION MARKxINVERTED EXCLAMATION MARKxUP ARROWrETROFLEX CLICK WITH RETROFLEX HOOK",
    "sVERSED COMMAzGLOTTAL STOPbl WITH STROKErHOTIC HOOKrIGHT ARROWHEADwHALF RINGwTACKqSHELF",
    "sORT EQUALS SIGNrMALL AxExINxLPHAwBx WITH HOOKxARRED OxETAxOTTOM HALF OwCx WITH CURL",
    "xAPITAL AAbeBbeGbf WITH HOOKbeHbeIbf WITH STROKEbfNVERTED RbeLbf WITH BELTbeNbeOEbeRbeUbeY",
    "xHIxLOSED OMEGAbdREVERSED OPEN EwDx WITH HOOKbh AND TAILbdTAILxELTAyZH DIGRAPH",
    "xOTLESS J WITH STROKEbr AND HOOKxZ DIGRAPHbg WITH CURLbmRETROFLEX HOOKwExNGxSHxTHxZHwF",
    "xENG DIGRAPHwGx WITH HOOKxAMMAxREEK GAMMAbcPHIwHx WITH HOOKbdSTROKExENGba WITH HOOK",
    "wI WITH STROKExOTAwJx WITH CROSSED-TAILwKwLx WITH BELTbdINVERTED LAZY SbdMIDDLE TILDE",
    "bdPALATAL HOOKbdRETROFLEX HOOKbr AND BELTxEZHba WITH RETROFLEX HOOKxIGATURE OExS DIGRAPH",
    "xZ DIGRAPHwMx WITH HOOKwN WITH LEFT HOOKbdRETROFLEX HOOKwOx WITH STROKExPEN EbbOwPxHIwQwR",
    "x WITH FISHHOOKbdTAILxAMS HORNxEVERSED EbfGLOTTAL STOPbfOPEN EwSx WITH CURLbdHOOKxCHWA",
    "yRIPT GxIDEWAYS UwTx WITH PALATAL HOOKbdRETROFLEX HOOKxC DIGRAPH WITH CURLxESH DIGRAPHxHETA",
    "xOP HALF OxS DIGRAPHbg WITH RETROFLEX HOOKxURNED AbeEbeLPHAbdHbdIbdMbe WITH LONG LEGbdOPEN E",
    "bdRbe WITH HOOKbkLONG LEGbs AND RETROFLEX HOOKbdVbdWbdYbe WITH BELTwUx BARyWITH LEFT HOOK",
    "xPSILONwVx WITH HOOKbdRIGHT HOOKwWwXwYwZx WITH CURLbdRETROFLEX HOOKrTRESS AND HIGH TONE",
    "bbLOW TONErUPERSCRIPT HALF TRIANGULAR COLONbcTRIANGULAR COLONqTRIANGULAR COLONrURNED COMMA",
    "qUNASPIRATEDrP ARROWHEADtTACKrSqVERTICAL LINErOICINGqYANG DEPARTING TONE MARK",
    "rIN DEPARTING TONE MARKdULO TWO SUMcNEY BAGgWITH WINGSf-MOUTH FACEdGOLIAN BIRGA",
    "p WITH DOUBLE ORNAMENTvORNAMENTkCOLONmMMAkDIGIT EIGHTqFIVErOURqNINEqONEqSEVENrIXqTHREErWO",
    "qZEROlOUBLE BIRGA WITH ORNAMENTkELLIPSISkFOUR DOTSlREE VARIATION SELECTOR FOURbiONEbiTHREE",
    "bjWOlULL STOPkINVERTED BIRGAy WITH DOUBLE ORNAMENTkLETTER AsLI GALI AbbHbbNUSVARA ONE",
    "baBALUDAbaCAbaDAbcGALGAbcMARUbbDAbaHALF UbfYAbaIbbNVERTED UBADAMAbaKAbaNGAbbNAbaPAbbHAbaSSA",
    "baTAbbHREE BALUDAbbTAbcHAbaUBADAMAbaVISARGA ONEbaZAbbHAsNGrBArCHAu WITH TWO DOTStIrDArEsErFA",
    "rGArHAArIrJArKAsHArLAsHArMAtNCHU ALI GALI BHAbhCAbiYAbhDDHAbiHAbhGHAbhJHAbhLHAbhNGAbhSSAbhTA",
    "biTAbhZAbiHAyFAyIyKAyRAyZHArNArOsErPArQArRArSAsHAsIBE ANGwCHAwDAwEwFAwGAyAwHAyAwIxYwJAwKAwPA",
    "wRAAwSHAwTAxSAwUxEwZAxHArTAsODO ALI GALI TAbfZHAxNGwBAwCHAwDAxZAwEwGAyAwHAAwIwJAxIAwKA",
    "wLONG VOWEL SIGNwMAwNIAwOxEwPAwQAwTAxSAwUxEwWAwYAsSArUsErWArYArZAsHIsRAkMANCHU COMMA",
    "rFULL STOPkNIRUGUkROTATED BIRGAx WITH DOUBLE ORNAMENTbdORNAMENT",
    "kSIBE SYLLABLE BOUNDARY MARKERlWIRL BIRGAv WITH DOUBLE ORNAMENTbbORNAMENTkTODO SOFT HYPHEN",
    "lRIPLE BIRGA WITH ORNAMENTlURNED SWIRL BIRGA WITH DOUBLE ORNAMENTkVOWEL SEPARATORdKEYg FACE",
    "dOGRAM FOR EARTHnYANGoINeRAILeSTABLE SYMBOLcOD BUBBLEdN CAKEfVIEWING CEREMONYcSQUEfITO",
    "cTHER CHRISTMASdOR BOATgSCOOTERfIZED WHEELCHAIRfWAYcUNT FUJIfAINi BICYCLISTjCABLEWAYjRAILWAY",
    "dSEf FACEgTRAPdTHcVIE CAMERAcYAIbRO DANDAfIGIT EIGHTkFIVElOURkNINEkONEkSEVENlIXkTHREElWO",
    "kZEROfOUBLE DANDAeLETTER AlBAlCHUlDAnIlEmAlHAInOlKEAAEmHAImOlLAnNlMAEMmIMlNGImINlOmLmOlPAmHI",
    "lRImOlSHIlTAmEKmHEAlWAlYObUCH GREATER-THANfLESS-THANcLTANI LETTER ApBAqHApCAqHApDAqDArDArHA",
    "qHApEpGAqHApHApIpJAqJApKAqHApLApMApNAqNAqYApPAqHApRAqHAqRApSApTAqHAqTArHApUpVApYA",
    "iSECTION MARKeIMAPfPLE MUSICAL NOTEShICATION SIGNt IN DOUBLE CIRCLExLEFT HALF CIRCLE",
    "xRIGHT HALF CIRCLExTRIANGLEuWITH DOT ABOVEzUNDERBARpXfSETi MULTIPLICATIONjUNIONcSHROOM",
    "dIC FLAT SIGNgNATURAL SIGNgSHARP SIGNfAL KEYBOARDq WITH JACKSiNOTEiSCORE",
    "jYMBOL ARPEGGIATO DOWNbaUPpBEGIN BEAMvPHRASEvSLURvTIEqRACEtKETrEATH MARKsVEtISv RESTpC CLEF",
    "qAESURAqIRCLE X NOTEHEADqLIMACUSsVISrUSTER NOTEHEAD BLACKbgWHITEqODArMBINING ACCENT",
    "bf-STACCATObaUGMENTATION DOTzBENDzDOITbbUBLE TONGUEbbWN BOWzFLAG-1be2be3be4be5bbIPzHARMONIC",
    "zLOUREzMARCATObg-STACCATOzRIPzSMEARbaNAP PIZZICATObaPRECHGESANG STEMbaTACCATISSIMObgObbEM",
    "zTENUTObaREMOLO-1bh2bh3bbIPLE TONGUEzUP BOWsMON TIMEqRESCENDOrOIXqUT TIMEpDA CAPOrL SEGNOrMP",
    "t ALLrSHED BARLINEqECRESCENDOrGREE SLASHqOUBLE BARLINEwFLATwSHARPqRUM CLEF-1z2pEIGHTH NOTE",
    "wRESTqND BEAMtOF STIMMEtPHRASEtSLURtTIEpF CLEFv OTTAVA ALTAbdBASSAqERMATAw BELOW",
    "qINAL BARLINEsGERED TREMOLO-1bg2bg3rVE-LINE STAFFqLAT DOWNuUPqORTErUR-LINE STAFF",
    "uSTRING FRETBOARDqUSA BLACKuWHITEpG CLEFv OTTAVA ALTAbdBASSAqLISSANDO DOWNzUP",
    "qRACE NOTE NO SLASHbaSLASHrEGORIAN C CLEFzF CLEFpHALF NOTEuPEDAL MARKuRESTrUPTSTIMME",
    "pINVERTED TURNpKIEVAN C CLEFwEIGHTH NOTE STEM DOWNbnUPxND OF PIECEwFINAL NOTExLAT SIGN",
    "wHALF NOTEwQUARTER NOTE STEM DOWNboUPwRECITATIVE MARKwWHOLE NOTEqORONpLEFT REPEAT SIGNqONGA",
    "u IMPERFECTA RESTvPERFECTA RESTpMAXIMAqEZZOqINIMAv BLACKwRESTqOON NOTEHEAD BLACKbdWHITE",
    "qULTI RESTuPLE MEASURE RESTpNATURAL DOWNxUPqEBENSTIMMEqOTEHEAD BLACKqULL NOTEHEAD",
    "pONE HUNDRED TWENTY-EIGHTH NOTEbpRESTs-LINE STAFFqRNAMENT STROKE-1bg0bg1bf2bf3bf4bf5bf6bf7",
    "bf8bf9qTTAVA ALTAwBASSApPARENTHESIS NOTEHEADqEDAL MARKvUP MARKrS SUBPUNCTISqIANO",
    "qLUS NOTEHEADqODATUSrRRECTUSy FLEXUSpQUARTER NOTExRESTxTONE FLATbcSHARPrINDICESIMA ALTA",
    "bcBASSApREPEAT DOTSvED FIGURE-1bf2bf3rVERSE FINAL BARLINEqIGHT REPEAT SIGNrNFORZANDO",
    "pSCANDICUSy FLEXUSqEGNOrMIBREVIS BLACKbaRESTbaWHITEtMINIMA BLACKbaRESTbaWHITEqHARP DOWNvUP",
    "rORT BARLINEqINGLE BARLINErX-LINE STAFFtSTRING FRETBOARDsTEENTH NOTEzRESTtY-FOURTH NOTE",
    "bcRESTqORIqQUARE BwNOTEHEAD BLACKbfWHITEqUBITOpTEMPUS IMPERFECTUM CUM PROLATIONE IMPERFECTA",
    "ch DIMINUTION-1ct2ct3bxPERFECTAwPERFECTUM CUM PROLATIONE IMPERFECTAbvPERFECTAcd DIMINUTION-1",
    "qHIRTY-SECOND NOTEbdRESTrREE-LINE STAFFqORCULUSx RESUPINUSqRrIANGLE NOTEHEAD DOWN BLACK",
    "bmWHITEbhLEFT BLACKbmWHITEbhRIGHT BLACKbnWHITEbhUP BLACKbkRIGHT BLACKbqWHITEbkWHITE",
    "x-ROUND NOTEHEAD DOWN BLACKbsWHITEqURNt SLASHuUPqWO-LINE STAFFpVIRGAqOID NOTEHEADpWHOLE NOTE",
    "vRESTqITH FINGERNAILSpX NOTEHEADpZbVSbWbYANMAR CONSONANT SIGN MEDIAL HAbeRAbeWAbeYA",
    "yON MEDIAL LAbiMAbiNAxSHAN MEDIAL WAiDIGIT EIGHToFIVEpOURoNINEoONEoSEVENpIXoTHREEpWOoZERO",
    "iLETTER AqITON RAqUpBAqHApCAqHApDAqDArHAqHApEqASTERN PWO KAREN GHWAbhNNAbhYWApGAqHAqREAT SA",
    "pHApIqIpJAqHApKAqHAsMTI CAxHAwDDAyHAxHAwFAwGAwHAxHAwJAxHAwLLAwNAxYAwRAwSAwTTAyHAwXAwZApLAqLA",
    "pMAqON BBAvEtEtJHAtNGApNAqGAqNArYAqYApOpPAqHApRAqUMAI PALAUNG FApSAqGAW KAREN SHAqHAsN AuBA",
    "vHAuCAvHAuDAuFAuGAvHAuHAuJHAuKAvHAuNAvNAvYAuPHAuTHAuZArWE PALAUNG CHAbcSHAqSApTArI LAING BA",
    "baHAzDAbaDAbbHAbaHAzFAzGAbaHAzJAbaHAzLLAzNNAbaYAqHAqTArHApUqUpVOCALIC LyLxRyRpWA",
    "qESTERN PWO KAREN PWAbhTHApYAjOGOGRAM KHAMTI HMyOAYyQNiMODIFIER LETTER KHAMTI REDUPLICATION",
    "ySHAN REDUPLICATIONiSHAN DIGIT EIGHTtFIVEuOURtNINEtONEtSEVENuIXtTHREEuWOtZEROjIGN ANUSVARA",
    "oSATnDOT BELOWnKHAMTI TONE-1z3nLITTLE SECTIONnPAO KAREN TONEnRUMAI PALAUNG TONE-5nSECTION",
    "oHAN COUNCIL EMPHATIC TONEbaTONE-2bf3sSAWsTONE-2x3x5x6nTAI LAING TONE-2bc5nVIRAMApSARGA",
    "nWESTERN PWO KAREN TONE-1bk2bk3bk4bk5jYMBOL AFOREMENTIONEDqITON EXCLAMATIONvONEvTWO",
    "pCOMPLETEDpGENITIVEpLOCATIVEpSHAN EXCLAMATIONuONEiTAI LAING DIGIT EIGHTyFIVEzOURyNINEyONE",
    "ySEVENzIXyTHREEzWOyZEROjONE MARK SGAW KAREN HATHIbdKE PHOiVOWEL SIGN AAuIvTON AbaItEu ABOVE",
    "tGEBA KAREN ItIuItKAYAH EEzOEzUtMON IIxOtSGAW KAREN EUuHAN AAyEz ABOVEyFINAL YtTALL AAtUuU",
    "tVOCALIC LbcLbbRbcRtWESTERN PWO KAREN EUblUE"]

/-- The names that start with N. -/
def rowsN : List String :=
  ["aN-ARY CIRCLED DOT OPERATORoPLUS OPERATORoTIMES OPERATORhOPRODUCTgINTERSECTIONgLOGICAL AND",
    "oORgPRODUCTgSQUARE INTERSECTION OPERATORnUNION OPERATORhUMMATIONgTIMES OPERATORgUNION",
    "l OPERATOR WITH DOTbaPLUSgWHITE VERTICAL BARbABATAEAN CRUCIFORM NUMBER FOURkLETTER ALEPHsYIN",
    "rBETHrDALETHrFINAL ALEPHxBETHxHExKAPHxLAMEDHxMEMxNUNxSHINxYODHrGIMELrHEtTHrKAPHrLAMEDHrMEM",
    "rNUNrPErQOPHrRESHrSADHEtMEKHsHINrTAWsETHrWAWrYODHrZAYINkNUMBER FIVEsOURrONEu HUNDREDrTEN",
    "sHREEsWENTYtOdLAcIL POLISHdRA SIGNcKcME BADGEcNDeINAGARI HEADSTROKEmLETTER AuAuIuUtBAuHAtCA",
    "uHAtDAuDAvHAuHAtEtGAuHAtHAtIuItJAuHAtKAuHAtLAuLAtMAtNAuGAuNAuYAtOtPAuHAtRAuRAtSAuHAuSAtTAuHA",
    "uTAvHAtUuUtVAuOCALIC RbcRtYAmSIGN ANUSVARAsVAGRAHArSIDDHAMrVIRAMAtSARGAmVOWEL SIGN AAyIyUxE",
    "xIyIxOxPRISHTHAMATRA ExUyUxVOCALIC RbgRcRROW NO-BREAK SPACEcTIONAL DIGIT SHAPESjPARK",
    "cUSEATED FACEcZAR AMULETbBHcSPbECKTIEcGATED DOUBLE VERTICAL BAR DOUBLE RIGHT TURNSTILE",
    "fIVE ACKNOWLEDGEjCIRCLED DIGIT ZEROrLATIN CAPITAL LETTER AbmBbmCbmDbmEbmFbmGbmHbmIbmJbmKbmL",
    "bmMbmNbmObmPbmQbmRbmSbmTbmUbmVbmWbmXbmYbmZrNUMBER EIGHTEENzLEVENyFIFTEENzOURTEENyNINETEEN",
    "ySEVENTEENzIXTEENyTHIRTEENzWELVEbbNTYrSQUARErTRIANGLEjDIAGONAL CROSSsDIAMOND",
    "sMIDDLE RIGHT TO LOWER CENTREjSQUARED ABrCROSS MARKrICrLATIN CAPITAL LETTER AbmBbmCbmDbmEbmF",
    "bmGbmHbmIbmJbmKbmLbmMbmNbmObmPbmQbmRbmSbmTbmUbmVbmWbmXbmYbmZrPArQUESTION MARKrSArWC",
    "cITHER A SUBSET OF NOR EQUAL TOmPERSET OF NOR EQUAL TOjPPROXIMATELY NOR ACTUALLY EQUAL TO",
    "iGREATER-THAN NOR EQUAL TObcIVALENT TOzLESS-THANiLESS-THAN NOR EQUAL TOzIVALENT TO",
    "wGREATER-THANcLcPTUNEh FORM TWOcRD FACEcSSUSdT WITH EGGSeING DOLLScUTEReRAL CHESS BISHOP",
    "u ROTATED NINETY DEGREESbdTWO HUNDRED SEVENTY DEGREESoEQUIHOPPERy ROTATED NINETY DEGREES",
    "oKINGs ROTATED NINETY DEGREESbbTWO HUNDRED SEVENTY DEGREESpNIGHTu ROTATED FORTY-FIVE DEGREES",
    "bdNINETY DEGREESbdONE HUNDRED THIRTY-FIVE DEGREESbdTHREE HUNDRED FIFTEEN DEGREES",
    "beWO HUNDRED SEVENTY DEGREESbpTWENTY-FIVE DEGREESoPAWNs ROTATED NINETY DEGREES",
    "bbTWO HUNDRED SEVENTY DEGREESoQUEENt ROTATED NINETY DEGREESbcTWO HUNDRED SEVENTY DEGREES",
    "oROOKs ROTATED NINETY DEGREESbbTWO HUNDRED SEVENTY DEGREESoTURNED BISHOPvKINGwNIGHTvPAWN",
    "vQUEENvROOKiFACEcW LINEeMOON SYMBOLjWITH FACEeSHEQEL SIGNeTAI LUE DIGIT EIGHTsFIVEtOURsNINE",
    "sONEsSEVENtIXsTHREEtWOsZEROmLETTER FINAL BzDzKzMzNbaGzVtHIGH BAyDAyFAyHAyKAzVAyLAyMAyNAzGA",
    "yPAzHAyQAySAzUAyTAzHAzSAyVAyXAzVAyYAtLOW BAxDAxFAxHAxKAyVAxLAxMAxNAyGAxPAyHAxQAxSAyUAxTAyHA",
    "ySAxVAxXAyVAxYAmSIGN LAEuVmTHAM DIGIT ONEnONE MARK-1w2mVOWEL SIGN AAzYyEyYxExIIyYxOyAzYyYxU",
    "yEzYyUyYxVOWEL SHORTENERdA ABBREVIATION SIGNfCOMMAfDANDAgIGIT EIGHTlFIVEmOURlNINElONElSEVEN",
    "mIXlTHREEmWOlZEROgOUBLE COMMAmDANDAfGAP FILLERfINSERTION SIGNfLETTER AnAnInUmBAnHAmCAnHAmDA",
    "nDAoHAnHAmEmGAnHAmHAmInImJAnHAmKAnHAmLAnHAmMAnHAmNAnGAoHAnHAnNAnYAoHAmOmPAnHAmRAnHAmSAnHAnSA",
    "mTAnHAnTAoHAmUnUmVEDIC ANUSVARAnOCALIC LvLuRvRmWAmYAfOMfPLACEHOLDER MARKfSANDHI MARKgIDDHI",
    "hGN ANUSVARAlVAGRAHAkCANDRABINDUkFINAL ANUSVARAkJIHVAMULIYAkNUKTAkUPADHMANIYAkVIRAMAmSARGA",
    "fVOWEL SIGN AArIrUqEqIrIqOqUrUqVOCALIC LzLyRzRdLINE LEFTiRIGHTdSPAPERcXT LINEfPAGE",
    "bIGHT WITH STARScNJAbKO COMBINING DOUBLE DOT ABOVEoLONG DESCENDING TONEtHIGH TONEtLOW TONE",
    "tRISING TONEoNASALIZATION MARKoSHORT HIGH TONEuLOW TONEuRISING TONEhMAeDANTAYALANfIGIT EIGHT",
    "kFIVElOURkNINEkONEkSEVENlIXkTHREElWOkZEROfOROME SIGNeEXCLAMATION MARKeHIGH TONE APOSTROPHE",
    "eLAJANYALANfETTER AlBAlCHAlDAnGBASINNAlEmElFAlGBAlHAlIlJAmONA CHAqJAqRAlKAlLAlMAlNmAn WOLOSO",
    "mYAo WOLOSOlOmOlPAlRAmRAlSAlTAlUlWAlYAfOW TONE APOSTROPHEeSYMBOL GBAKURUNENlOO DENNEN",
    "eTAMAN SIGNbLbNBSPbO BICYCLESeREAK HEREdENTRYi SIGNdMOBILE PHONESdONE UNDER EIGHTEEN SYMBOL",
    "dPEDESTRIANSeIRACYdSMOKING SYMBOLc-BREAK SPACEcMINAL DIGIT SHAPESeSMA SIGNcN-BREAKING HYPHEN",
    "ePOTABLE WATER SYMBOLdFORKINGcRdDIC MARK SIGNdMAL SUBGROUP OFs OR EQUAL TO",
    "dTH EAST AND SOUTH WEST ARROWmRROWq AND SOUTH EAST ARROWrCROSSING NORTH WEST ARROW",
    "baSOUTH EAST ARROWrWITH HOOKlBLACK ARROWlDOUBLE ARROWlPOINTING BUDuLEAFuVINE LEAF",
    "lSANS-SERIF ARROWlTRIANGLE-HEADED ARROWbg TO BARlWHITE ARROWgINDIC FRACTION ONE EIGHTHzHALF",
    "zQUARTERzSIXTEENTHvTHREE QUARTERSbbSIXTEENTHSmPLACEHOLDER MARKmQUANTITY MARKpRTER MARK",
    "mRUPEE MARKgWEST AND SOUTH EAST ARROWmRROWq AND NORTH EAST ARROWrCROSSING NORTH EAST ARROW",
    "rTO CORNERuLONG BARrWITH HOOKlBLACK ARROWlDOUBLE ARROWlPOINTING BUDuLEAFuVINE LEAF",
    "lSANS-SERIF ARROWlTRIANGLE-HEADED ARROWbg TO BARlWHITE ARROWfEAST-POINTING AIRPLANEcSE",
    "cT A SUBSET OFiPERSET OFfLMOST EQUAL TOfN ELEMENT OFfSYMPTOTICALLY EQUAL TOeCHECK MARK",
    "eEQUAL TOhIVALENT TOeGREATER-THANeIDENTICAL TOeLESS-THANeNORMAL SUBGROUP OFw OR EQUAL TO",
    "ePARALLEL TOeSIGNfQUARE IMAGE OF OR EQUAL TOlORIGINAL OF OR EQUAL TOeTILDEfRUE",
    "dCHED LEFT SEMICIRCLE WITH THREE DOTSjOWER RIGHT-SHADOWED WHITE RIGHTWARDS ARROW",
    "iRIGHT SEMICIRCLE WITH THREE DOTSiUPPER RIGHT-SHADOWED WHITE RIGHTWARDS ARROWdEe PADhGEeBOOK",
    "i WITH DECORATIVE COVERbULdLcMBER EIGHTEEN FULL STOPiLEVEN FULL STOPhFIFTEEN FULL STOP",
    "iOURTEEN FULL STOPhNINETEEN FULL STOPhSEVENTEEN FULL STOPiIGNjXTEEN FULL STOPhTEN FULL STOP",
    "iHIRTEEN FULL STOPiWELVE FULL STOPkNTY FULL STOPdERO SIGNcSHU CHARACTER-1B170u1u2u3u4u5u6u7",
    "u8u9uAuBuCuDuEuFt80u1u2u3u4u5u6u7u8u9uAuBuCuDuEuFt90u1u2u3u4u5u6u7u8u9uAuBuCuDuEuFtA0u1u2u3",
    "u4u5u6u7u8u9uAuBuCuDuEuFtB0u1u2u3u4u5u6u7u8u9uAuBuCuDuEuFtC0u1u2u3u4u5u6u7u8u9uAuBuCuDuEuF",
    "tD0u1u2u3u4u5u6u7u8u9uAuBuCuDuEuFtE0u1u2u3u4u5u6u7u8u9uAuBuCuDuEuFtF0u1u2u3u4u5u6u7u8u9uAuB",
    "uCuDuEuFs200u1u2u3u4u5u6u7u8u9uAuBuCuDuEuFt10u1u2u3u4u5u6u7u8u9uAuBuCuDuEuFt20u1u2u3u4u5u6u7",
    "u8u9uAuBuCuDuEuFt30u1u2u3u4u5u6u7u8u9uAuBuCuDuEuFt40u1u2u3u4u5u6u7u8u9uAuBuCuDuEuFt50u1u2u3",
    "u4u5u6u7u8u9uAuBuCuDuEuFt60u1u2u3u4u5u6u7u8u9uAuBuCuDuEuFt70u1u2u3u4u5u6u7u8u9uAuBuCuDuEuF",
    "t80u1u2u3u4u5u6u7u8u9uAuBuCuDuEuFt90u1u2u3u4u5u6u7u8u9uAuBuCuDuEuFtA0u1u2u3u4u5u6u7u8u9uAuB",
    "uCuDuEuFtB0u1u2u3u4u5u6u7u8u9uAuBuCuDuEuFtC0u1u2u3u4u5u6u7u8u9uAuBuCuDuEuFtD0u1u2u3u4u5u6u7",
    "u8u9uAuBuCuDuEuFtE0u1u2u3u4u5u6u7u8u9uAuBuCuDuEuFtF0u1u2u3u4u5u6u7u8u9uAuBgITERATION MARK",
    "cT AND BOLTbYIAKENG PUACHUE HMONG CIRCLED CAxDIGIT EIGHTbdFIVEbeOURbdNINEbdONEbdSEVENbeIX",
    "bdTHREEbeWObdZEROxLETTER AbfAbeCAbeDAbfLAbeEbfEbeFAbeGAbeHAbgHbeIbeKAbeLAbeMAbfLAbeNAbfCA",
    "bfKAbfPAbgLAbfQAbfRAbfTAbgSAbgXAbfYAbeObfObePAbfLAbeQAbeRAbfRAbeSAbeTAbfSAbfXAbeUbeVAbeWbeXA",
    "bfYAbeYAbeZAyOGOGRAM NYAJxSIGN FOR ANIMALbgINVERTEBRATEbgLOCATIONbgPERSONbgTHINGbcXW XW",
    "yYLLABLE LENGTHENERxTONE-BbcDbcGbcJbcMbcSbcV"]

/-- The names that start with O. -/
def rowsO : List String :=
  ["aOBJECT REPLACEMENT CHARACTERcLIQUE ANGLE OPENING DOWNwUPiHYPHENcSERVER EYE SYMBOL",
    "bCR AMOUNT OF CHECKeBELT BUCKLEfOW TIEfRANCH BANK IDENTIFICATIONeCHAIR",
    "fUSTOMER ACCOUNT NUMBEReDASHfOUBLE BACKSLASHeFORKeHOOKeINVERTED FORKcTAGONAL SIGNdOPUSbDEN",
    "bFFICE BUILDINGbGHAM FEATHER MARKgLETTER AILMnBEITHnCEIRToOLLnDAIRnEABHADHpDHADHpMHANCHOLL",
    "nFEARNnGORTnIFINoODHADHnLUISnMUINnNGEADALoIONnONNoRnPEITHnRUISnSAILoTRAIFnTINNEnUATHoILLEANN",
    "oRgREVERSED FEATHER MARKgSPACE MARKcONEKbHM SIGNbIL DRUMbK HAND SIGNbL CHIKI AHAD",
    "jDIGIT EIGHTpFIVEqOURpNINEpONEpSEVENqIXpTHREEqWOpZEROjGAAHLAA TTUDDAAGjLETTER AAJsKsMsWrGrL",
    "rNGrTqEDDrNrPrRRqIHrNYrRrSqLAsArErIrOrUqOBrHrTTrVqUCrDrNNrYjMU TTUDDAGl-GAAHLAA TTUDDAAG",
    "jPHAARKAAkUNCTUATION DOUBLE MUCAADvMUCAADjRELAAcD CHINESE HOOK MARKmITERATION MARK",
    "eHUNGARIAN CAPITAL LETTER AbeAbeKbeMBbeNDbdCLOSE EbdEbeBbeCbfHbfSbeDbeEbeFbeGbfYbeHbeJbeKbeL",
    "bfYbeMbfPbeNbfCbfTbg-SHAPED SIGNbfYbePbeRbeSbfZbeTbfYbeVbeZbfSbdIbeIbdNIKOLSBURG OEboUEbdO",
    "beEEbeObdRUDIMENTA OEbnUEbdSHORT ERbdUbeNKbeSbeUoNUMBER FIFTYxVEvONEy HUNDREDzTHOUSANDvTEN",
    "oSMALL LETTER AbcAbcKbcMBbcNDbbCLOSE EbbEbcBbcCbdHbdSbcDbcEbcFbcGbdYbcHbcJbcKbcLbdYbcMbdPbcN",
    "bdCbdTbe-SHAPED SIGNbdYbcPbcRbcSbdZbcTbdYbcVbcZbdSbbIbcIbbNIKOLSBURG OEbmUEbbObcEEbcO",
    "bbRUDIMENTA OEblUEbbSHORT ERbbUbcNKbcSbcUeITALIC LETTER AsBEsCHEsDEsEtFtKStLtMtNtRuStSuHuS",
    "sHEsItIsKAtEtHEtUsNORTHERN TSEsOsPEtHEsSHEtOUTHERN TSEsTEtHEsUtUsVEsYEsZElNUMERAL FIFTYvVE",
    "tONEtTENeKEYeNORTH ARABIAN LETTER AINbaLEFzBEHzDADbbLzES-1bc2bc3zFEHzGEEMbaHAINzHAHbaEHzKAF",
    "baHAHzLAMzMEEMzNOONzQAFzREHzSADzTAHbaEHbaHALbbEHzWAWzYEHzZAHbbINsNUMBER ONEzTENbaWENTY",
    "ePERMIC LETTER ANsBURsCHERYsDOItZHOIuITAsEtFsGAIsHAsItAtEsKOKEsLEIsMENOEsNENOEsOtOsPEEIsREI",
    "sSHCHOOIuOOItIIsTAItSIUsUsVERtOOIsYAuTtERvIvUtRYtUsZATAtHOIhSIAN NUMBER HUNDREDtONEtTEN",
    "uWENTYvOmSIGN AsURAMAZDAAbb-2bbHArBAtGAsUUMISHrCArDAtHYAAUSHba-2sIsUrFArGAsUrHArIrJAsIrKAsU",
    "rLArMAsIsUrNAsUrPArRAsUrSAsHAsSArTAsHAsUrUrVAsIrXAsSHAAYATHIYArYArZAmWORD DIVIDER",
    "iONAL COMPUTEReSOGDIAN FRACTION ONE HALFmLETTER ALEPHvTERNATE AYINuYINtBETHtFINAL ALEPHzBETH",
    "zHEzNUNbc WITH VERTICAL TAILzSADHEbe WITH VERTICAL TAILzTAWbc WITH VERTICAL TAILtGIMELtHEvTH",
    "tKAPHtLAMEDHtMEMtNUNtPEtRESH-AYIN-DALETHtSADHEvMEKHuHINtTAWtWAWtYODHtZAYIN",
    "nIGATURE AYIN-DALETHmNUMBER FIVEuOURtONEw HUNDREDtTENuHIRTYvREEuWENTYvO",
    "gUTH ARABIAN LETTER ALEFbaYNzBETHzDALETHbaHADHEbcLETHzFEzGHAYNbaIMELzHEbbTHzKAPHbaHETH",
    "zLAMEDHzMEMzNUNzQOPHzRESHzSADHEbbMEKHbbTbaHINzTAWbaETHbaHAWbbETHzWAWzYODHzZAYNsNUMBER FIFTY",
    "zONEvERIC INDICATOReTURKIC LETTER ORKHON AbaBbaDbaEBbbDbbGbbKbbLbbNbbRbbSbbTbbYbaGbaLbaNbaQ",
    "baRbaSbbHbaTbaYzBASHzECbaLTbaMbaNCbbGbbTbbYbaPbaSHbaZzIbaCbaQzObaEbbKbaPbaQbaTsYENISEI AbbB",
    "bbDbbEbcBbcGbcKbcNbdGbcTbcYbbGbbLbbNGbbQbbRbbSHbbTbbYbaEbbCbbNCbcTbcYbbSHbbZbaIbbQbaOEbcKbbQ",
    "eUYGHUR COMBINING DOT ABOVEzBELOWvTWO DOTS ABOVEbeBELOWlLETTER ALEPHsBETHsFINAL HETH",
    "sGIMEL-HETHsKAPHsLAMEDHtESHsMEMsNUNsPEsRESHsSADHEuMEKHtHINsTAWsWAWsYODHsZAYIN",
    "lPUNCTUATION BARxFOUR DOTSxTWO BARSbbDOTSdER ADULTgMANgWOMANcIVEbM SYMBOL",
    "bN WITH EXCLAMATION MARK WITH LEFT RIGHT ARROW ABOVEcCOMING AUTOMOBILEjBUSjFIRE ENGINE",
    "jPOLICE CARjTAXIcE BUTTON MOUSEeDOT LEADERiOVER TWO DOTS PUNCTUATIONd-PIECE SWIMSUITcION",
    "bPEN BOOKhXfCENTRE ASTERISKmBLACK STARmCROSSmTEARDROP-SPOKED ASTERISKfFILE FOLDERgOLDER",
    "fHANDS SIGNfLOCKfMAILBOX WITH LOWERED FLAGsRAISED FLAGfSUBSEThPERSET",
    "e-CIRCUIT-OUTPUT H-TYPE SYMBOLuL-TYPE SYMBOLfOUTLINED RIGHTWARDS ARROWdRATING SYSTEM COMMAND",
    "cHIUCHUScPOSITIONcTICAL DISCm ICONeON KEYbR WITH DOT INSIDEcANGE BOOKhHEARTfUTANcIGINAL OF",
    "dYA AI LENGTH MARKhU LENGTH MARKgDIGIT EIGHTmFIVEnOURmNINEmONEmSEVENnIXmTHREEnWOmZERO",
    "gFRACTION ONE EIGHTHtHALFtQUARTERtSIXTEENTHpTHREE QUARTERSvSIXTEENTHSgISSHARgLETTER AoAoIoU",
    "nBAoHAnCAoHAnDAoDApHAoHAnEnGAoHAnHAnIoInJAoHAnKAoHAnLAoLAnMAnNAoGAoNAoYAnOnPAoHAnRAoHAoRAnSA",
    "oHAoSAnTAoHAoTApHAnUoUnVAoOCALIC LwLvRwRnWAnYAoYAgSIGN ANUSVARAmVAGRAHAlCANDRABINDUlNUKTA",
    "lOVERLINElVIRAMAnSARGAgVOWEL SIGN AAsIsUrErIsIrOrUsUrVOCALIC LbaLzRbaRcNATE LEFT PARENTHESIS",
    "hRIGHT PARENTHESIScTHODOX CROSSbSAGE CAPITAL LETTER AwHwIxNvBRAvCHAvDHAvEwHCHAxKAxPAxTAySA",
    "wINvGHAvHAwYAvIvKAwHAwYAvLAvMAvNAvOwINvPAvSAwHAvTAwSAxHAvUvWAvZAwHAgSMALL LETTER AuHuIvNtBRA",
    "tCHAtDHAtEuHCHAvKAvPAvTAwSAuINtGHAtHAuYAtItKAuHAuYAtLAtMAtNAtOuINtPAtSAuHAtTAuSAvHAtUtWAtZA",
    "uHAcCcMANYA DIGIT EIGHToFIVEpOURoNINEoONEoSEVENpIXoTHREEpWOoZEROiLETTER AqAqLEFpBApCAYNpDEEL",
    "qHApEqEpFApGApHApIpJApKAAFqHApLAANpMIINpNUUNpOqOpQAAFpRApSAqHIINpTApUpWAWpXApYAbTTER",
    "dOMAN SIYAQ ALTERNATE NUMBER EIGHTbfFIVEbgOURbj HUNDREDbfNINEbfSEVENbgIXbi HUNDREDbfTEN",
    "bi THOUSANDbgHREEbgWObi THOUSANDoFRACTION ONE HALFbbSIXTHoMARRATANoNUMBER EIGHTba HUNDRED",
    "bbTHOUSANDbaYbb THOUSANDvFIFTYba THOUSANDxVEz HUNDREDbaTHOUSANDwORTYba THOUSANDxURz HUNDRED",
    "baTHOUSANDvNINEz HUNDREDbaTHOUSANDzTYbb THOUSANDvONEy HUNDREDzTHOUSANDvSEVENba HUNDRED",
    "bbTHOUSANDbaTYbc THOUSANDwIXy HUNDREDzTHOUSANDyTYba THOUSANDvTENy THOUSANDwHIRTYbb THOUSAND",
    "xREEba HUNDREDbbTHOUSANDwWENTYbb THOUSANDxOy HUNDREDzTHOUSANDbUNCE SIGNcTBOX TRAY",
    "dLINED BLACK STARjGREEK CROSSjLATIN CROSSjWHITE STARbVERHEATED FACEeLAPhPING BLACK SQUARES",
    "mWHITE AND BLACK SQUARESsSQUARESfINEbWLbXbYSTER"]

end NetPlan.Text.CharacterName
