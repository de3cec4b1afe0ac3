/-!
# Names of characters: C

The names of characters that start with the letter C, as rows of a table.
-/

namespace NetPlan.Text.CharacterName

/-- The names that start with C. -/
def rowsC : List String :=
  ["aCACTUScDA UNAdUCEUScLENDARdL ME HANDcMERAg WITH FLASHdPINGcNdADIAN SYLLABICS AuAvIvYuI",
    "vVILIK BuNuTHAPASCAN MbeSuYtBEAVER DENE LbfRuIBLE-CREE YuLACKFOOT AbdEbdIbdKAbeEbeIbeObdNA",
    "beEbeIbeObdObdSbdWbeAbeEbeIbeOtCuAvAwIvRRIER CHAbdEbeEbdIbdObdUbbDEEbdNE GEEbeTAL SbcIbcLA",
    "bdEbeEbdIbdObdUbcZAbdEbeEbdIbdObdUbbEEbbGAbdAbcEbdEbcHAbdEbeEbdIbdObdUbcIbcObcUbcWAbdUbbH",
    "bcEEbcIbcWAbdEbeEbdIbdObdUbbIbcNITIAL ZbbJAbcEbdEbcIbcJAbdEbeEbdIbdObdUbcObcUbcWAbbKHAbdEbeE",
    "bdIbdObdUbcKbdAbdEbeEbdIbdObdUbbLAbcEbdEbcHAbdEbeEbdIbdObdUbcIbcObcUbbMAbcEbdEbcIbcObcUbbNA",
    "bcEbdEbcGbcIbcObcUbbPbcAbcEbdEbcIbcObcUbbRAbcEbdEbcIbcObcUbbSAbcEbdEbcHbdAbdEbeEbdIbdObdUbcI",
    "bcObcUbbTHAbdEbeEbdIbdObdUbcLAbdEbeEbdHAbeEbfEbeIbeObeUbdIbdObdUbcSAbdEbeEbdIbdObdUbcTAbdE",
    "beEbdIbdObdSAbeEbfEbeIbeObeUbdUbbWAbcEbdEbcIbcObcUbbYAbcEbdEbcIbcObcUbbZbcAbcEbdEbcIbcObcUuE",
    "uHI SIGNuIvIuOvOuWAwAvEvIwIvOwOtEuASTERN WuNtFuAvAwIuEuIvIvNAL ACUTEzBOTTOM HALF RING",
    "zDOUBLE ACUTEbgSHORT VERTICAL STROKESbbWN TACKzGRAVEzMIDDLE DOTzPLUSzRAISED DOT",
    "baIGHT HALF RINGbbNGzSHORT HORIZONTAL STROKEbaMALL RINGzTOP HALF RINGuOvOuULL STOPuWAA",
    "tGLOTTAL STOPtHKuYPHENtIuIuNtKuAvAwIvYuEuIvIuOvOuWvAwAwYvEvIwIvOwOtLuAvAwIvYuEuHvAwAvIwIvOwO",
    "uIvIuOvOuWAwAvEvIwIvOwOtMuAvAwIvYuEvDIAL LbaRuHuIvIuOvOwSE-CREE SKuWAwAvEvIwIvOwOtN",
    "u-CREE THEbcIbdIuAvAwIvSKAPI CWAAbbKWAAbbMWAAbbNWAAbbS-WbcCWAbcKWbeAbcPWAbcTWAbcWAAbbTWAA",
    "bbWAAbcOObbYWAAvTTILIK HAbeAbdIbeIbdObeObcSHRAbgAbfIbgIbfObgOvYuEuGvAwAxIwIvIwIvOwOuHuIvIuNG",
    "wAxAwIxIwOxOuOvOvYuUNAVIK HbcAbdAbcEbcIbdIbcObdOyUT HuWAwAvEvIwIvOwOtOuJIBWAY CbbKbbMbbNbcWI",
    "beIbdObeObbPbbSbcHbbTuNuOuYtPuAvAwIvYuEuIvIuOvOvYuWAwAvEvIwIvOwOwYtQuAvAwIvIuIvIuOvOtR",
    "u-CREE REbbWEuAvAwIvYuEuIvIuOvOuWAwAvEEvIwIvOwOtSuAvAwIvYwISI HAbbEbbIbbObcObaJIbbUbcUbaM",
    "baSHAbcEbcIbcObdObcWEbaTHbaYIuEuHvAwAwYvEvIwIvOwOwYvWAxAwEwIxIwOxOxYuIvIuOvOvUTH-SLAVEY KAH",
    "bhEHbhIHbhOHvYuPAvEvIvOuWvAwAvEvIwIvOwOtTuAvAwIvYuEuHv-CREE THbdAbeAbdEbdIbeIbdObeOvAwAvEvI",
    "wIvOwOvWAxAwEuIvIuLHAwEwIwOxOwWEuOvOuTAvEvHwAxAwEwIwOxOwWEvIvOuWAwAvEvIwIvOwOuYAvEvIvOtWAvA",
    "vYuEvST-CREE CWAbgAbfEbfIbgIbfObgObdFWAAbdKWAbgAbfEbfIbgIbfObgObdLbeAbfAbeEbeObfObeWAbgAbfE",
    "bfIbgIbfObgObdMbeWAbgAbfEbfIbgIbfObgObdNWAbgAbfEbdPbeWAbgAbfEbfIbgIbfObgObdRbeAbeEbeIbeO",
    "beWAAbdSHWAbhAbgEbgIbhIbgObhObeWAbgAbfEbfIbgIbfObgObdTHWAAbeWAbgAbfEbfIbgIbfObgObdWAbfAbeE",
    "beIbfIbeObfObdYbeWAbgAbfEbfIbgIbfObgOxERN WuIvIuOvOwDS-CREE FINAL THbeTHbgAbgEbgIbgObgWAbiA",
    "bhEEbhIbiIbhObiOtYu-CREE COObaKOObaLOObaMOObaNOObaOObaPOObbWAAbaSOObaTOObaWbaYOOuAvAwIvYuEuI",
    "vIuOvOvYuWAwAvEvIwIvOwOdCELg CHARACTERhTAGgLATION XfRdDLEeYdNED FOODdOEcPITULUMdRICORN",
    "cR SLIDINGdD FILE BOXfINDEXk DIVIDERSdE OFeTf INSERTION POINTdIAN LETTER Ap2oBoC-18q39oDp2oE",
    "p2oGp2oIpIoKp2oLpDq2oMpBq2q3q4oNpDpGpNoOoPp2oQoRpRoSpHq2pSpTq2oTpTq2oUpUqUr2r3rUoXdON",
    "eUSEL HORSEdP STREAMEReENTRY SAWdRIAGE RETURNeOTcSTLEcTd FACEi WITH TEARS OF JOYoWRY SMILE",
    "cUCASIAN ALBANIAN CITATION MARKtLETTER ALTbbORbaBETbaCARbcYNbbHAbdTbcIbcOYbbYAWbdYbaDATbbYAN",
    "bbZAYbcYAYbaEBbbYNbaFAMbaGHEYSbbIMbaHEYTbaINYAbbRBbbWNbaJAYNbbHOXbaKARbbIWbaLANbbYITbaMAQ",
    "baNOWCbaONbaPENbbIWRbaQARbcYbaRATbaSEYKbbHAbdKbcOYbaTASbbIWRbbYAYbaVEYZbaXEYNbaYAYDbbOWD",
    "baZARLbbHAbcILdTION SIGNbCHbEDI SIGNeLLAcLTIC CROSScNT SIGNeRE LINE SYMBOLgLINE LOW LINE",
    "lOVERLINEcRESbGJbHAINSeRdKMA AU MARKhDANDAiIGIT EIGHTnFIVEoOURnNINEnONEnSEVENoIXnTHREEoWO",
    "nZEROiOUBLE DANDAhLETTER AAoBAApHAAoCAApHAAoDAApDAAqHAApHAAoEoGAApHAAoHAAoIoJAApHAAoKAApHAA",
    "oLAApHAAoMAAoNAApGAApNAApYAAoPAApHAAoRAAoSAAoTAApHAApTAAqHAAoUoVAAoWAAoYAApYAAhMAAYYAA",
    "hO MARKhQUESTION MARKhSECTION MARKiIGN ANUSVARAmCANDRABINDUmVISARGAhVIRAMAiOWEL SIGN AtAtItU",
    "sEtIsItIsOtIsUtUdM CONSONANT SIGN FINAL HbaMbaNGuLAuRAuWAuYAfDIGIT EIGHTlFIVEmOURlNINElONE",
    "lSEVENmIXlTHREEmWOlZEROfLETTER AnImBAnBAnHAmCHAoHAmDAnDAnHAmEmFINAL CHsGsKsLsNtGsPsRsSSsTsY",
    "mGAnHAmHAmImJAnHAmKAnHAmLAmMAnUEmNAnGAoUEnHAoJAoUEnUEmOmPAnHAnPAmRAmSAnSAmTAnHAmUmVAmYA",
    "fPUNCTUATION DANDAsOUBLE DANDArSPIRALrTRIPLE DANDAfVOWEL SIGN AArIrUqEIqIrIqOrEqUrE",
    "dRACTER TABULATIONu SETvWITH JUSTIFICATIONlIEeT WITH DOWNWARDS TRENDlUPWARDS TREND",
    "y AND YEN SIGNcECK MARKfER BOARDn FILLdERING MEGAPHONEeSE WEDGEdQUERED FLAGdROKEE LETTER A",
    "qDArErIrLArOrUrVqEqGArErIrOrUrVqHArErIrNArOrUrVqIqKAqLArErIrOrUrVqMArErIrOrUrVqNAsHrErIrOrU",
    "rVqOqQUAsEsIsOsUsVqSrArErIrOrUrVqTArErIrLAsEsIsOsUsVrSAsEsIsOsUsVqUqVqWArErIrOrUrVqYArErIrO",
    "rUrVjSMALL LETTER AwDAxExIxLAxOxUxVwEwGAxExIxOxUxVwHAxExIxNAxOxUxVwIwKAwLAxExIxOxUxVwMAxExI",
    "xOxUxVwNAyHxExIxOxUxVwOwQUAyEyIyOyUyVwSxAxExIxOxUxVwTAxExIxLAyEyIyOyUyVxSAyEyIyOyUyVwUwVwWA",
    "xExIxOxUxVwYAxExIxOxUxVeRIESfY BLOSSOMdSTNUTcI RHOdCKENdLDfREN CROSSINGdPMUNKdRON",
    "cOCOLATE BARdPSTICKSdRASMIAN LETTER ALEPHtYINsBETHsCURLED WAWsDALETHsGIMELsHEuTHsKAPHsLAMEDH",
    "sMEMsNUNsPEsRESHsSAMEKHtHINtMALL ALEPHsTAWsWAWsYODHsZAYINlNUMBER FOURsONEv HUNDREDsTENtHREE",
    "tWENTYuOcRISTMAS TREEcURCHbINEMA",
    "cRCLE DIVIDED BY HORIZONTAL BAR AND TOP HALF DIVIDED BY VERTICAL BAR",
    "hWITH ALL BUT UPPER LEFT QUADRANT BLACKmHORIZONTAL BARmLEFT HALF BLACKnOWER HALF BLACK",
    "mRIGHT HALF BLACKmSMALL CIRCLE TO THE RIGHTnUPERIMPOSED X",
    "mTWO HORIZONTAL STROKES TO THE RIGHTmUPPER HALF BLACKsRIGHT QUADRANT BLACKmVERTICAL FILL",
    "gD ANTICLOCKWISE ARROWv-ROTATED DIVISION SIGNjSTERISK OPERATORiBOLD XjULLET",
    "iC WITH OVERLAID BACKSLASHjCjDjROSS FORMEEu WITH FOUR DOTSbaTWO DOTSoPOMMEEnING LANESiDASH",
    "jIGIT EIGHToFIVEpOURoNINEoONEoSEVENpIXoTHREEpWOoZEROkVISION SIGNsLASH",
    "jOLLAR SIGN WITH OVERLAID BACKSLASHkT OPERATORiEQUALSiGREATER-THANiHANGUL CHIEUCHw AqIEUCu A",
    "pHIEUHu ApIEUNGu AvUpKHIEUKHw AqIYEOKv ApMIEUMu ApNIEUNu ApPHIEUPHw AqIEUPu ApRIEULu ApSIOS",
    "t ApTHIEUTHw AqIKEUTv AjEAVY WHITE RIGHTWARDS ARROWjORIZONTAL BAR WITH NOTCHjUMAN FIGURE",
    "iIDEOGRAPH ACCEPTtDVANTAGEtLLIANCEtTTENTIONsCENTREtONGRATULATIONuPYuRRECTsEARTHtIGHT",
    "tNTERPRISEtXCELLENTsFEMALEtINANCIALuREuVEtOURsHAVEtIGHsITEMsKINDERGARTENtOTOsLABORtEFTtOW",
    "sMALEtEDICINEuTALtOONsNAMEtIGHTuNEsONEsPRINTsQUESTIONsRELIGIONuSOURCEvTtIGHTsSCHOOLtECRET",
    "uVENtIXtOCIETYtPECIALtTOCKuUDYtUITABLEuNuPERVISEsTENtHREEtWOsWATERtOODjNFORMATION SOURCE",
    "jTALIC LATIN CAPITAL LETTER CbkRiKATAKANA ArErHAsEsIsOsUrIrKAsEsIsOsUrMAsEsIsOsUrNAsEsIsOsU",
    "rOrRAsEsIsOsUrSAsEsIsOsUrTAsEsIsOsUrUrWAsEsIsOrYAsOsUjOREAN CHARACTER CHAMKOzJUEUI",
    "iLATIN CAPITAL LETTER AbdBbdCbdDbdEbdFbdGbdHbdIbdJbdKbdLbdMbdNbdObdPbdQbdRbdSbdTbdUbdVbdWbdX",
    "bdYbdZoSMALL LETTER AbbBbbCbbDbbEbbFbbGbbHbbIbbJbbKbbLbbMbbNbbObbPbbQbbRbbSbbTbbUbbVbbWbbX",
    "bbYbbZjESS-THANiMINUSjULTIPLICATION SIGN WITH CIRCUMFLEX ACCENTiNUMBER EIGHTEEN",
    "uY ON BLACK SQUAREqLEVENpFIFTEENtYu ON BLACK SQUAREqORTYu EIGHTvFIVEwOURvNINE",
    "vON BLACK SQUARExEvSEVENwIXvTHREEwWOrURTEENpNINETEENpSEVENTEENvY ON BLACK SQUAREqIXTEEN",
    "tY ON BLACK SQUAREpTENs ON BLACK SQUAREqHIRTEENuYv EIGHTwFIVExOURwNINEwON BLACK SQUAREyE",
    "wSEVENxIXwTHREExWOqWELVEsNTYv EIGHTwFIVExOURwNINEwON BLACK SQUAREyEwSEVENxIXwTHREExWO",
    "iOPEN CENTRE EIGHT POINTED STARiPARALLELjERPENDICULARjLUSjOSTAL MARKiREVERSE SOLIDUS",
    "jING OPERATORiSQUAREiTIMESjRIANGLEq DOWNiVERTICAL BARiWHITE BULLEToSTARjZiXiZERO WITH SLASH",
    "eULATION FUNCTIONfMFLEX ACCENTfS TENTcTYSCAPEj AT DUSKbJK COMPATIBILITY IDEOGRAPH-2F800bg1",
    "bg2bg3bg4bg5bg6bg7bg8bg9bgAbgBbgCbgDbgEbgFbf10bg1bg2bg3bg4bg5bg6bg7bg8bg9bgAbgBbgCbgDbgEbgF",
    "bf20bg1bg2bg3bg4bg5bg6bg7bg8bg9bgAbgBbgCbgDbgEbgFbf30bg1bg2bg3bg4bg5bg6bg7bg8bg9bgAbgBbgCbgD",
    "bgEbgFbf40bg1bg2bg3bg4bg5bg6bg7bg8bg9bgAbgBbgCbgDbgEbgFbf50bg1bg2bg3bg4bg5bg6bg7bg8bg9bgAbgB",
    "bgCbgDbgEbgFbf60bg1bg2bg3bg4bg5bg6bg7bg8bg9bgAbgBbgCbgDbgEbgFbf70bg1bg2bg3bg4bg5bg6bg7bg8bg9",
    "bgAbgBbgCbgDbgEbgFbf80bg1bg2bg3bg4bg5bg6bg7bg8bg9bgAbgBbgCbgDbgEbgFbf90bg1bg2bg3bg4bg5bg6bg7",
    "bg8bg9bgAbgBbgCbgDbgEbgFbfA0bg1bg2bg3bg4bg5bg6bg7bg8bg9bgAbgBbgCbgDbgEbgFbfB0bg1bg2bg3bg4bg5",
    "bg6bg7bg8bg9bgAbgBbgCbgDbgEbgFbfC0bg1bg2bg3bg4bg5bg6bg7bg8bg9bgAbgBbgCbgDbgEbgFbfD0bg1bg2bg3",
    "bg4bg5bg6bg7bg8bg9bgAbgBbgCbgDbgEbgFbfE0bg1bg2bg3bg4bg5bg6bg7bg8bg9bgAbgBbgCbgDbgEbgFbfF0bg1",
    "bg2bg3bg4bg5bg6bg7bg8bg9bgAbgBbgCbgDbgEbgFbe900bg1bg2bg3bg4bg5bg6bg7bg8bg9bgAbgBbgCbgDbgEbgF",
    "bf10bg1bg2bg3bg4bg5bg6bg7bg8bg9bgAbgBbgCbgDbgEbgFbf20bg1bg2bg3bg4bg5bg6bg7bg8bg9bgAbgBbgCbgD",
    "bgEbgFbf30bg1bg2bg3bg4bg5bg6bg7bg8bg9bgAbgBbgCbgDbgEbgFbf40bg1bg2bg3bg4bg5bg6bg7bg8bg9bgAbgB",
    "bgCbgDbgEbgFbf50bg1bg2bg3bg4bg5bg6bg7bg8bg9bgAbgBbgCbgDbgEbgFbf60bg1bg2bg3bg4bg5bg6bg7bg8bg9",
    "bgAbgBbgCbgDbgEbgFbf70bg1bg2bg3bg4bg5bg6bg7bg8bg9bgAbgBbgCbgDbgEbgFbf80bg1bg2bg3bg4bg5bg6bg7",
    "bg8bg9bgAbgBbgCbgDbgEbgFbf90bg1bg2bg3bg4bg5bg6bg7bg8bg9bgAbgBbgCbgDbgEbgFbfA0bg1bg2bg3bg4bg5",
    "bg6bg7bg8bg9bgAbgBbgCbgDbgEbgFbfB0bg1bg2bg3bg4bg5bg6bg7bg8bg9bgAbgBbgCbgDbgEbgFbfC0bg1bg2bg3",
    "bg4bg5bg6bg7bg8bg9bgAbgBbgCbgDbgEbgFbfD0bg1bg2bg3bg4bg5bg6bg7bg8bg9bgAbgBbgCbgDbgEbgFbfE0bg1",
    "bg2bg3bg4bg5bg6bg7bg8bg9bgAbgBbgCbgDbgEbgFbfF0bg1bg2bg3bg4bg5bg6bg7bg8bg9bgAbgBbgCbgDbgEbgF",
    "beA00bg1bg2bg3bg4bg5bg6bg7bg8bg9bgAbgBbgCbgDbgEbgFbf10bg1bg2bg3bg4bg5bg6bg7bg8bg9bgAbgBbgC",
    "bgDbcF900bf1bf2bf3bf4bf5bf6bf7bf8bf9bfAbfBbfCbfDbfEbfFbe10bf1bf2bf3bf4bf5bf6bf7bf8bf9bfAbfB",
    "bfCbfDbfEbfFbe20bf1bf2bf3bf4bf5bf6bf7bf8bf9bfAbfBbfCbfDbfEbfFbe30bf1bf2bf3bf4bf5bf6bf7bf8bf9",
    "bfAbfBbfCbfDbfEbfFbe40bf1bf2bf3bf4bf5bf6bf7bf8bf9bfAbfBbfCbfDbfEbfFbe50bf1bf2bf3bf4bf5bf6bf7",
    "bf8bf9bfAbfBbfCbfDbfEbfFbe60bf1bf2bf3bf4bf5bf6bf7bf8bf9bfAbfBbfCbfDbfEbfFbe70bf1bf2bf3bf4bf5",
    "bf6bf7bf8bf9bfAbfBbfCbfDbfEbfFbe80bf1bf2bf3bf4bf5bf6bf7bf8bf9bfAbfBbfCbfDbfEbfFbe90bf1bf2bf3",
    "bf4bf5bf6bf7bf8bf9bfAbfBbfCbfDbfEbfFbeA0bf1bf2bf3bf4bf5bf6bf7bf8bf9bfAbfBbfCbfDbfEbfFbeB0bf1",
    "bf2bf3bf4bf5bf6bf7bf8bf9bfAbfBbfCbfDbfEbfFbeC0bf1bf2bf3bf4bf5bf6bf7bf8bf9bfAbfBbfCbfDbfEbfF",
    "beD0bf1bf2bf3bf4bf5bf6bf7bf8bf9bfAbfBbfCbfDbfEbfFbeE0bf1bf2bf3bf4bf5bf6bf7bf8bf9bfAbfBbfCbfD",
    "bfEbfFbeF0bf1bf2bf3bf4bf5bf6bf7bf8bf9bfAbfBbfCbfDbfEbfFbdA00bf1bf2bf3bf4bf5bf6bf7bf8bf9bfA",
    "bfBbfCbfDbfEbfFbe10bf1bf2bf3bf4bf5bf6bf7bf8bf9bfAbfBbfCbfDbfEbfFbe20bf1bf2bf3bf4bf5bf6bf7bf8",
    "bf9bfAbfBbfCbfDbfEbfFbe30bf1bf2bf3bf4bf5bf6bf7bf8bf9bfAbfBbfCbfDbfEbfFbe40bf1bf2bf3bf4bf5bf6",
    "bf7bf8bf9bfAbfBbfCbfDbfEbfFbe50bf1bf2bf3bf4bf5bf6bf7bf8bf9bfAbfBbfCbfDbfEbfFbe60bf1bf2bf3bf4",
    "bf5bf6bf7bf8bf9bfAbfBbfCbfDbe70bf1bf2bf3bf4bf5bf6bf7bf8bf9bfAbfBbfCbfDbfEbfFbe80bf1bf2bf3bf4",
    "bf5bf6bf7bf8bf9bfAbfBbfCbfDbfEbfFbe90bf1bf2bf3bf4bf5bf6bf7bf8bf9bfAbfBbfCbfDbfEbfFbeA0bf1bf2",
    "bf3bf4bf5bf6bf7bf8bf9bfAbfBbfCbfDbfEbfFbeB0bf1bf2bf3bf4bf5bf6bf7bf8bf9bfAbfBbfCbfDbfEbfFbeC0",
    "bf1bf2bf3bf4bf5bf6bf7bf8bf9bfAbfBbfCbfDbfEbfFbeD0bf1bf2bf3bf4bf5bf6bf7bf8bf9eRADICAL BAMBOO",
    "nLUEnOLT OF CLOTHoNEoXnRUSH ONEsTWOmC-SIMPLIFIED BIRDzCARTzDRAGONzEATbaVENzFISHbaLYbaROG",
    "zGATEbaOLDzHORSEzLEAFbaONGzSALTbaEEbaHELLbaILKbaPEECHzTANNED LEATHERbaOOTHbaURTLEzWINDnHOKE",
    "nITYoVILIANnLIFFoOTHESnOWmDEATHnIVINATIONnOGmEAT ONEqTHREErWOnWEnYEmFIREnOOTmGHOSTnRASS ONE",
    "sTHREEtWOmHANDnEADpRT ONEsTWOnORNmJ-SIMPLIFIED DRAGONzEVENzTOOTHbaURTLEnADEmKNIFE ONEsTWO",
    "mLAME FOURrONErTHREEsWOnONG ONErTWOmMEAToSHnOONoRTARoTHERoUND ONEsTWOmNET FOURqONEqTHREErWO",
    "mOLDmPAW ONEqTWOnERSONmRAINoMoPnEPEATmSEALoCOND ONEtTHREEuWOnHEEPnILK",
    "oMPLIFIED HALF TREE TRUNKyORNxWALKyHEATxYELLOWnMALL ONEsTWOnNAKEoOUT ONEsTWOnPIRIT ONEtTWO",
    "nUNmTABLEnHREADnIGERnURTLEmWALK ONErTWOoTER ONEsTWOnEST ONErTWOeSTROKE BXGlDlHmGmPnWGmXWGmZ",
    "nGnTnWoGnZoPoZpGlNlPmDmGmZlQlSmGmPmTmWnGnZmZnWGnZlTmNlWGlXGbLAMSHELL MOBILE PHONEdPPER BOARD",
    "fING HANDS SIGNdSSICAL BUILDINGcEAR SCREEN SYMBOLcINKING BEER MUGSjGLASSESdPBOARD",
    "cOCK FACE EIGHT OCLOCKq-THIRTYmLEVEN OCLOCKr-THIRTYlFIVE OCLOCKp-THIRTYmOUR OCLOCKp-THIRTY",
    "lNINE OCLOCKp-THIRTYlONE OCLOCKo-THIRTYlSEVEN OCLOCKq-THIRTYmIX OCLOCKo-THIRTYlTEN OCLOCK",
    "o-THIRTYmHREE OCLOCKq-THIRTYmWELVE OCLOCKr-THIRTYnO OCLOCKo-THIRTYfWISE CLOSED CIRCLE ARROW",
    "lONTOUR INTEGRALkDOWNWARDS AND UPWARDS OPEN CIRCLE ARROWSkGAPPED CIRCLE ARROWkINTEGRAL",
    "kOPEN CIRCLE ARROWkRIGHT AND LEFT SEMICIRCLE ARROWSpWARDS AND LEFTWARDS OPEN CIRCLE ARROWS",
    "cb WITH CIRCLED ONE OVERLAYkTOP SEMICIRCLE ARROWlRIANGLE-HEADED OPEN CIRCLE ARROWdSE UP",
    "fD BOOKhINTERSECTION WITH SERIFShLOCK WITH KEYhMAILBOX WITH LOWERED FLAGuRAISED FLAGhSUBSET",
    "n OR EQUAL TOjPERSETp OR EQUAL TOhUMBRELLAiNION WITH SERIFSy AND SMASH PRODUCTdUD",
    "f WITH LIGHTNINGlRAINlSNOWlTORNADOdWN FACEbOATcCKROACHeTAIL GLASSdONUTcFFINcIN",
    "cLLISION SYMBOLdONf EQUALSgSIGNcMBINING ACUTE ACCENTw BELOWqTONE MARKp-GRAVE-ACUTEqMACRON",
    "lLMOST EQUAL TO ABOVEbaBELOWlNNUITY SYMBOLmTICLOCKWISE ARROW ABOVEyRING OVERLAY",
    "lSTERISK ABOVEtBELOWkBINDU BELOWlREVEp BELOWp-MACRONmIDGE ABOVErBELOWkCANDRABINDUmRONp BELOW",
    "lEDILLAlIRCUMFLEX ACCENTbb BELOWlLOCKWISE ARROW ABOVEuRING OVERLAYlOMMA ABOVEv RIGHTqBELOW",
    "mNJOINING MACRONbb BELOWlYRILLIC DASIA PNEUMATAtHUNDRED MILLIONS SIGNbbTHOUSANDS SIGNtKAVYKA",
    "tLETTER AbaBEbbIG YUSbaCHEbaDEbbJERVbaEFbbLbbMbbNbbRbbSbc-TEbaFITAbaGHEbaHAbcRD SIGNbaIbbE",
    "bbOTIFIED AbjBIG YUSbjEbaKAbaLITTLE YUSbaMONOGRAPH UKbaObbMEGAbaPEbaSHAbcCHAbbOFT SIGNbaTE",
    "bbSEbaUbbKRAINIAN IEbaVEbaYATbbERUbbIbbUbaZEbbHEtMILLIONS SIGNtPALATALIZATIONvYEROKuOKRYTIE",
    "uSILI PNEUMATAtTEN MILLIONS SIGNuHOUSAND MILLIONS SIGNuITLOy LEFT HALFzRIGHT HALFtVZMET",
    "kDELETION MARKmVANAGARI DIGIT EIGHTbbFIVEbcOURbbNINEbbONEbbSEVENbcIXbbTHREEbcWObbZERO",
    "vLETTER AbcKAbcNAbcPAbcRAbcUbcVIvSIGN AVAGRAHAlIAERESISt BELOWt-RINGlOT ABOVEt LEFTuRIGHT",
    "oBELOWt LEFTnTED ACUTE ACCENTrGRAVE ACCENTmUBLE ACUTE ACCENTrBREVEw BELOWrCIRCUMFLEX ABOVE",
    "rGRAVE ACCENTrINVERTED BREVEbf BELOWrLOW LINErMACRONx BELOWrOPEN MARK BELOWsVERLINE",
    "rPARENTHESES ABOVEsLUS SIGN ABOVEbbBELOWrRIGHTWARDS ARROW BELOWtNG BELOWrTILDEw LEFT HALF",
    "xRIGHT HALFrVERTICAL LINE ABOVEbfBELOWbaSTROKE OVERLAYqD CIRCUMFLEX ACCENTmWN TACK BELOW",
    "oWARDS ARROWkENCLOSING CIRCLEba BACKSLASHuDIAMONDuKEYCAPuSCREENvQUARE",
    "uUPWARD POINTING TRIANGLElQUALS SIGN BELOWkFERMATAlOUR DOTS ABOVEkGLAGOLITIC LETTER AZU",
    "bcBIG YUSbdUKYbcCHRIVIbcDJERVIbdOBRObcFITAbdRITUbcGLAGOLIbcHERUbcIbdNITIAL IZHE",
    "bdOTATED BIG YUSbkSMALL YUSbdZHEbcKAKObcLJUDIJEbcMYSLITEbcNASHIbcONUbcPOKOJIbcRITSIbcSHAbeTA",
    "bdLOVObdMALL YUSbcTSIbdVRIDObcUKUbcVEDEbcYATIbdERIbfUbeSTUbdObdUbcZEMLJAbdHIVETE",
    "lRANTHA DIGIT FIVEzOURyONEySIXyTHREEzWOyZEROsLETTER AzKAzNAzPAzVInPHEME JOINERnVE ACCENT",
    "w BELOWqTONE MARKp-ACUTE-GRAVEqMACRONmEEK DIALYTIKA TONOSqKORONISqMUSICAL PENTASEME",
    "yTETRASEMEzRISEMEqPERISPOMENIqYPOGEGRAMMENIkHOMOTHETIC ABOVEmOK ABOVEmRNkINFINITY",
    "mVERTED BREVEy BELOWvIDGE BELOWtDOUBLE ARCH ABOVEbfBELOWlS BELOW",
    "kKATAKANA-HIRAGANA SEMI-VOICED SOUND MARKbcVOICED SOUND MARKmVYKA ABOVE LEFTxRIGHT",
    "kLATIN LETTER SMALL CAPITAL GblLblMblNblRqSMALL LETTER Abe WITH DIAERESISbeEbeLPHAbeObeVbdB",
    "beETAbdCbe CEDILLAbdDbdEbeSHbeTHbdFbeLATTENED OPEN A ABOVEbdGbdHbdIbeNSULAR DblGblRblTbdKbdL",
    "be WITH DOUBLE MIDDLE TILDEbeONG SbdMbdNbdObe WITH DIAERESISbkLIGHT CENTRALIZATION STROKEbdP",
    "bdRbe BELOWbfROTUNDAbdSbeCHWAbdTbeURNED W BELOWbdUbe WITH DIAERESIS",
    "bkLIGHT CENTRALIZATION STROKEbdVbdWbe BELOWbdXbdZlEFT ANGLE ABOVEvBELOWqRROW ABOVEvBELOW",
    "uHEAD ABOVEzBELOWpHALF RING ABOVEzBELOWrRPOON ABOVEpPARENTHESIS ABOVE LEFTbbBELOW LEFT",
    "pRIGHT ARROW ABOVEbbBELOWpTACK BELOWoWARDS ARROW OVERLAYuHARPOON WITH BARB DOWNWARDS",
    "lIGATURE LEFT HALFbc BELOWtRIGHT HALFbd BELOWnHT CENTRALIZATION STROKE BELOW",
    "lONG DOUBLE SOLIDUS OVERLAYpSOLIDUS OVERLAYqTROKE OVERLAYpVERTICAL LINE OVERLAYmW LINE",
    "kMACRONq BELOWrLEFT HALFba BELOWrRIGHT HALFbb BELOWq-ACUTErBREVErGRAVElINUS SIGN BELOW",
    "kNOT TILDE ABOVElUMBER SIGN ABOVEkOGONEKq ABOVElLD PERMIC LETTER ANbcDOIbcNENOEbcSIIbcZATA",
    "lPEN MARK BELOWlVERLINEkPALATALIZED HOOK BELOWmRENTHESES ABOVEwBELOWwOVERLAYlLUS SIGN ABOVE",
    "uBELOWkRETROFLEX HOOK BELOWmVERSE SOLIDUS OVERLAYrD COMMA ABOVElIGHT ARROW ABOVEwBELOW",
    "vHEAD ABOVEbbND DOWN ARROWHEAD BELOWbeUP ARROWHEAD BELOWbaBELOWqHALF RING ABOVEbaBELOW",
    "sRPOON ABOVEqPARENTHESIS ABOVE RIGHTbcBELOW RIGHTqTACK BELOW",
    "pWARDS HARPOON WITH BARB DOWNWARDSmNG ABOVEpBELOWpOVERLAYkSEAGULL BELOWlHORT SOLIDUS OVERLAY",
    "rTROKE OVERLAYqVERTICAL LINE OVERLAYlNAKE BELOWlQUARE BELOWsRACKETS ABOVE",
    "lTRONG CENTRALIZATION STROKE BELOWlUSPENSION MARKkTHREE DOTS ABOVElILDEp BELOW",
    "qLEFT HALF BELOWqOVERLAYqRIGHT HALF BELOWlRIPLE ACUTE ACCENTrDOTrUNDERDOTlURNED COMMA ABOVE",
    "kUP TACK ABOVEsBELOWmWARDS ARROW BELOWlR ABOVElS ABOVEkVERTICAL LINE ABOVEyBELOWtTILDE",
    "kWIDE BRIDGE ABOVEpINVERTED BRIDGE BELOWmGGLY LINE BELOWkX ABOVEmBELOWl-X BELOWkZIGZAG ABOVE",
    "rBELOWdETdMAeERCIAL ATlMINUS SIGNdPASSeLEMENTeOSITION SYMBOLeRESSIONcNFETTI BALLeOUNDED FACE",
    "eUSED FACEdGRUENT WITH DOT ABOVEdICAL TAPERdJUNCTIONdSTRUCTION SIGNnWORKERdTAINS AS MEMBER",
    "mNORMAL SUBGROUPbb OR EQUAL TOjWITH LONG HORIZONTAL STROKEoOVERBAR",
    "oVERTICAL BAR AT END OF HORIZONTAL STROKEeINUOUS UNDERLINE SYMBOLeOUR INTEGRALeROL KNOBS",
    "iSEQUENCE INTRODUCERdVENIENCE STOREcOKED RICEeIEfNGcPTIC CAPITAL LETTER AKHMIMIC KHEIxLFA",
    "wBOHAIRIC KHEIwCROSSED SHEIyYPTOGRAMMIC EIEbkGANGIAbkNIbkSHEIwDALDAxEIxIALECT-P ALEFbgHORI",
    "bgKAPAbgNIwEIEwFEIxIwGAMMAyNGIAwHATExORIwIAUDAwKAPAxHEIyIxSIwL-SHAPED HAxAULAwMIwNIwO",
    "xLD COPTIC AINbhDJAbhESHbhGANGIAbhHAbjTbiEIbiORIbhOOUbhSHEIbjIMAbaNUBIAN NGIbiYIbhSHIMAbhWAU",
    "xOUwPIxSIwROwSAMPIxHEIyIMAxIMAxOUwTAUxHETHEwUAwVIDAwZATAiOMBINING NI ABOVErSPIRITUS ASPER",
    "baLENIShEPACT DIGIT EIGHTtFIVEuOURtNINEtONEtSEVENuIXtTHREEuWOnNUMBER EIGHT HUNDREDzYuFIFTY",
    "wVE HUNDREDvORTYwUR HUNDREDuNINE HUNDREDyTYuONE HUNDREDuSEVEN HUNDREDzTYvIX HUNDREDxTYuTEN",
    "vHIRTYwREE HUNDREDvWENTYwO HUNDREDnTHOUSANDS MARKhFRACTION ONE HALFiULL STOP",
    "hMORPHOLOGICAL DIVIDERhOLD NUBIAN DIRECT QUESTION MARKsFULL STOPsINDIRECT QUESTION MARK",
    "sVERSE DIVIDERhSMALL LETTER AKHMIMIC KHEIvLFAuBOHAIRIC KHEIuCROSSED SHEIwYPTOGRAMMIC EIE",
    "biGANGIAbiNIbiSHEIuDALDAvEIvIALECT-P ALEFbeHORIbeKAPAbeNIuEIEuFEIvIuGAMMAwNGIAuHATEvORI",
    "uIAUDAuKAPAvHEIwIvSIuL-SHAPED HAvAULAuMIuNIuOvLD COPTIC AINbfDJAbfESHbfGANGIAbfHAbhTbgEI",
    "bgORIbfOOUbfSHEIbhIMAyNUBIAN NGIbgYIbfSHIMAbfWAUvOUuPIvSIuROuSAMPIvHEIwIMAvIMAvOUuTAUvHETHE",
    "uUAuVIDAuZATAiYMBOL KAIpHI ROoMI ROoPI ROoSHIMA SIMApTAUROSoTAU ROdYLEFT SYMBOLeRIGHT SIGN",
    "cRALdNISH VERSE DIVIDERdRESPONDS TOcUCH AND LAMPdNTERBOREhSINKfING ROD TENS DIGIT EIGHTyFIVE",
    "zOURyNINEyONEySEVENzIXyTHREEzWOnUNIT DIGIT EIGHTyFIVEzOURyNINEyONEySEVENzIXyTHREEzWO",
    "dPLE WITH HEARTcWd FACEbRcABcEDIT CARDdSCENT MOONcICKETh BAT AND BALLcOCODILEdISSANTdSS MARK",
    "gOF JERUSALEMjLORRAINEgPATTY WITH LEFT CROSSBARrRIGHT CROSSBARhOMMEEm WITH HALF-CIRCLE BELOW",
    "fED FLAGSiNEGATIVE SQUARED LATIN CAPITAL LETTER PiSWORDSfING LANESdWNcUTCHdZEIRO SIGN",
    "cYING CAT FACEhFACEdSTAL BALLbSIbUBE ROOTcCUMBERcNEIFORM NUMERIC SIGN EIGHT ASHbdDISHbdGESH2",
    "bdSHAR2bdUbe VARIANT FORMbdVARIANT FORM USSUbu3yLAMITE FIFTYbgORTYbfONE THIRDbfTWO THIRDS",
    "xFIVE ASHbf TENUbcBAN2bg VARIANT FORMbdURUbcDISHbcGESH2bgUbcSHAR2bgUbdIXTHS DISHbcU",
    "bd VARIANT FORMyOUR ASHbf TENUbcBAN2bg VARIANT FORMbdURUbcDISHbcGESH2bgUbcSHAR2bgUbcU",
    "bd VARIANT FORMbcVARIANT FORM LIMMUbu AbvBbu4xNIGIDAESHbdMINzNE ASHbcDISHbcGESH2bcSHAR2bcU",
    "bd VARIANT FORMbcVARIANT FORM ILIMMUbv Abv3bv4xOLD ASSYRIAN ONE QUARTERboSIXTHyNE BAN2bcURU",
    "bbEIGHTH ASHbcSHE3bbGESH2bfUbbHALF GURbbQUARTER ASHbjGURbbSHARUbbTHIRD DISHbhVARIANT FORM A",
    "xSEVEN ASHbdDISHbdGESH2bdSHAR2bdUbe VARIANT FORMbdVARIANT FORM IMIN AbvBbu3",
    "yHAR2 TIMES GAL PLUS DISHbsMINyIX ASHbe TENUbbDISHbbGESH2bbSHAR2bbUbc VARIANT FORM",
    "bbVARIANT FORM ASH9xTHREE ASHbg TENUbdBAN2beURUbh VARIANT FORMbdDISHbdGESH2bhUbdSHAR2",
    "bi VARIANT FORMbhUbi VARIANT FORMbdVARIANT FORM ESH16bt21yWO ASHbe TENUbbBAN2bcURUbbESHE3",
    "bbGESH2bfUbbSHAR2bfUbbTHIRDS DISHbiVARIANT FORM AkPUNCTUATION SIGN DIAGONAL COLONbkQUADCOLON",
    "bkTRICOLONbbOLD ASSYRIAN WORD DIVIDERbbVERTICAL COLONkSIGN Aq TIMES AxBADxGAN2 TENUxHAxIGI",
    "xLAGAR GUNUxMUSHxSAGq2qBr GUNUsTIMES ASH2yDUN3 GUNUyGALbaN2 TENUyHAyIGI GUNUzMINyLAGAByNUN",
    "bb TENUySHESHbaU2yU PLUS U PLUS Ur2s TIMES AzBALAGzGAN2 TENUzME PLUS ENzSHA3zTAK4qD",
    "r TIMES ESH2qKr TIMES ERIN2ySHITA PLUS GISHqLr TIMES ALyDIM2yGISHyHAyKAD3zIySHEyUSHrANrEPH",
    "qMARt TIMES KUGbaSHEqNr OVER ANsPLUS NAGA OPPOSING AN PLUS NAGAbcSQUAREDsTHREE TIMESrSHEqPIN",
    "qRADt TIMES KURrKABqSAL2rHs KABA TENUtOVER ASH OVER ASHbk CROSSING ASH OVER ASH OVER ASH",
    "bcTUG2 OVER TUG2 TUG2 OVER TUG2 PAPtZIDA TENUs2sGABpBArDs TIMES DISH TENUrG3rHAR2v TIMES AB2",
    "bcNIbcZArLs OVER BALsAGrRsA2qIr TIMES AyGARyIGI GUNUqUr CROSSING BUsOVER BU ABbaTIMES NA2",
    "baUNrLUGu OVER BULUGrRs2pDAr TIMES TAK4rGs KISIM5 TIMES A PLUS MASHbhMARbgBALAGbhIbgGA",
    "bi PLUS MASHbhIbiR2bhUDbgHAbgIRbi PLUS LUbgKAKbgLAbhUbi PLUS MASH2biMbgNEbgPAP PLUS PAPbgSI",
    "bgTAK4bgU2 PLUS GIR2boMASHbhSHtTIMES KURs3rMrRsA3t4qIrBrMs TIMES IGIzSHEzU U Us2t TIMES UDrN",
    "s KASKAL U GUNU DISHrSHt PLUS SHUqUr GUNUsOVER DUsSHESHIGrBs TIMES ESH2zSHEs2rGs TIMES ANSHE",
    "baSHbc AT LEFTzDINbaUNzERIN2zGAbaIbbR2 GUNUbbSHzHAbaIzIGI GUNUzKASKALbaURbbSHU2",
    "bf PLUS KASKALzLAK-020bbMbc TIMES KURbaUH PLUS GISHzMASHbaESbaIzNIzPIzSHEbaI GUNUsUDrHrNs3",
    "t GUNUy GUNUs4rR2pEq OVER E NUN OVER NUNrTIMES PAPq2r TIMES A PLUS HA PLUS DAyGARyKURyMIyPAP",
    "ySALzHEyUqDINqGIRqLqNr CROSSING ENsOPPOSING ENsSQUAREDsTIMES GAN2bc TENUyMEqRENrIN2u XqSH2",
    "t CROSSING ESH2qZENt SHESHIG TIMES ASHbiHIbiIGI GUNUbiLAbkLbiMEbkSbiSUuTIMES Abb PLUS LAL",
    "bk TIMES LALbbNbaBADbaDUN3 GUNUbj GUNUbaGUDbaHAbc GUNUbaIGI GUNUbaKASKALbg SQUAREDbbU3baLA",
    "bcL TIMES LALbbIbbUbaSHEbbUbaU2bbDpGAr GUNUr2s OVER GA2tTIMES A PLUS DA PLUS HAbgHAbgIGI",
    "baB2 TENU PLUS TABbaNbb PLUS KAK PLUS AbaSHbc2bd PLUS GALzBADbbHAR2bbR PLUS RAbaURbc PLUS RA",
    "zDAbaIbbM GUNUbdTIMES SHEbaUBbbG TIMES IGI GUNUbjKASKALzELbb PLUS LAbaNbb TIMES GAN2 TENU",
    "baRENzGAbbN2 TENUbbRbc PLUS DIbiNEbaIbb4bc PLUS AbbR2 PLUS SUzHA PLUS AbhLU PLUS ESH2bbL",
    "bc PLUS LAbaI PLUS LIbaUB2zIGI GUNUbaSH PLUS HU PLUS ASHzKAKbbSKALbaIDbc PLUS LAL",
    "baU3 PLUS ANbbSHU2 PLUS KASKALzLAbbMbc TIMES KURbaUHzME PLUS ENbaIbaUSHzNEbb PLUS E2bhGIbaUN",
    "bc OVER NUNzPAzSALbbRbaHEbc PLUS TURbbIDbcMbaUMzTAK4zUbaDbb PLUS DUzZIZ2rBAt CROSSING GABA",
    "uROTATED NINETY DEGREESrDs OVER GAD GAR OVER GARrLs GAD OVER GAD GAR OVER GARsAMrMrNs2",
    "t CROSSING GAN2uOVER GAN2uTENUrRs3rSHANqE22rSHTINw TIMES KURbdUqIr CROSSING GIsTIMES EyUr4",
    "s CROSSING GI4tOVER GI4rDIMrGrR2t GUNUs3t TIMES A PLUS IGIbaGAN2 TENUbaIGIbaLU PLUS IGIbaPA",
    "rSALsHt CROSSING GISHuTENUvIMES BADbaGISH CROSSING GISHbaTAK4qUr CROSSING GUr2s GUNU",
    "tTIMES IGI GUNUzKAKbc TIMES IGI GUNUzNUNzSAL PLUS TUG2rDs OVER GUD LUGAL",
    "tPLUS GISH TIMES TAK4tTIMES A PLUS KURzKURrLrMs TIMES SHErRs7sUNtSHpHAr GUNUsTENUw GUNUrLqI",
    "r TIMES ASHbb OVER HI TIMES ASHbb2yBADyDISHyGADyKINyNUNySHEyUqUrB2t TIMES ANbaHALbaKASKAL",
    "baLISHbaUDrL2rSHpIq AqBqDIMt OVER IDIM BURbeSQUAREDqGrIs DIBtGUNU",
    "tOVER IGI SHIR OVER SHIR UD OVER UDtRIqLr TIMES GAN2 TENUr2qMr CROSSING IMsOPPOSING IM",
    "sSQUAREDsTIMES TAK4rINqNqRqSHpKAr TIMES AzDba PLUS KU3zNSHEzSH2bb3yBADbaLAGbaRzIzUyERIN2zSH2",
    "yGAbaLbaN2 TENUbaRbb PLUS SHA3 PLUS AzIbaR2baSHbc CROSSING GISHbdPLUS SARzUbaDbaR7",
    "yHI TIMES ASH2yIGIzMyKAbaKzIbaDyLIzUbaMyMEba PLUS DUbgGIbgTEzIba PLUS NUNUZyNEzUNyPAzIyRUySA",
    "baRzHAbaEbaIDbaUbbLzIGzUHURyTARzUyUz U Uz2zDzMUM TIMES PAzRba2zSHyZIr2s CROSSING KA2rBrD2s3",
    "s4s5t OVER KAD5rKs TIMES IGI GUNUrLs CROSSING KALtTIMES BADrM2s4rP ELAMITErSKAL",
    "v LAGAB TIMES U OVER LAGAB TIMES UwOVER KASKAL LAGAB TIMES U OVER LAGAB TIMES UqESH2qI",
    "r TIMES BADyUzDrDrNrSALsHsIM5v OVER KISIM5qUr OVER HI TIMES ASH2 KU OVER HI TIMES ASH2r3r4",
    "s VARIANT FORMr7rLs GUNUrNrRs OPPOSING KURrSHU2qWU318pLArGABu SQUAREDvTIMES A",
    "bc PLUS DA PLUS HAbiGARbiLALbcLbcNbcSH ZIDA TENUbbBADbcIbbDARbbENbbGAbdRbcIbcUDbe PLUS GUD",
    "bbHAbdLbcI TIMES NUNbbIGI GUNUbcMbd PLUS HAbjLUbbKIbdNbcU3bdLbe PLUS HI PLUS AbbLAGABbcISH",
    "bcUbdLbbMEbd PLUS ENbcUSHbbNEbbSHE PLUS SUMbdITA PLUS GISH PLUS ERIN2brTENUbdU2bf PLUS SHU2",
    "bcUMbbTAGbdK4bcE PLUS A PLUS SU PLUS NAbbUbc PLUS AbiU PLUS Ubc2 PLUS ASHbcDbcSHbbZU OVER ZU",
    "tRu GUNUz OVER LAGAR GUNU SHEvTIMES SHEbe PLUS SUMrHSHUrK-003u21v5u30u50v1u62",
    "u79 OVER LAK-079 GUNUu80v1 OVER LAK-081u92t130u42t210v9u20v5v8u38u65v6t343v7v8u83v4u90t441v9",
    "w TIMES GUbdIGIbdPAP PLUS LU3bmPAP PLUS LU3bdU2 PLUS BAu50v7u70u83u90v2v3v5t550t608u17",
    "w TIMES ASHbdBADbdDUN3 GUNU GUNUbdKU3bdLAbdTARbeEbdU2beDbeRUDAu36u48w TIMES DUBbdGAbdIGI",
    "bg GUNUbdNIbdPAP PLUS PAP PLUS LU3bdSHESH PLUS KIbdUDbeRUDAt724u49rLs TIMES LALrMs TIMES KUR",
    "bc PLUS RUqIrLrMMU2rSHqUr TIMES BADr2s CROSSING LU2tGUNU TIMES ASHtOPPOSING LU2tSHESHIG",
    "ba TIMES BADuQUAREDtTENUuIMES ALzBADzDISHzESH2bd PLUS LALbeTENUzGAN2 TENUzHALbaI TIMES BAD",
    "zIMzKAD2bc3bd PLUS ASHbaIzLA PLUS ASHbbGABzME PLUS ENzNEbaUzPAPbc PLUS PAP PLUS LU3zSHU",
    "baI PLUS ASHbbK2 PLUS BUzTAK4baUG2r3rGALu OPPOSING LUGALwVER LUGALvSHESHIGrHrLrMs OVER LUM",
    "bb GAR OVER GARpMAr GUNUsTIMES TAK4r2rHrRrSHt2qErSsHqIr PLUS ZA7rNqUr OVER MUrGs GUNUrNSUB",
    "rRGU2rSHt CROSSING MUSHuOVER MUSHbd TIMES A PLUS NAbkGAbkKAKuTIMES AbaKURbaZAt3u GUNU",
    "vTIMES Abc PLUS DIbbDIbbZApNAr2r4rGAt INVERTEDuOPPOSING NAGAuTIMES SHU TENUtRrMs NUTILLUs2qE",
    "r SHESHIGsTIMES AyUDqIr TIMES Er2rMs TIMES GAN2 TENUbbR PLUS GAN2 TENUrNs9sDA2v TIMES ANbdSH",
    "bf PLUS ASHbcBALbcDIM GUNUbcGIbeSHbdUDbeLbcHIbcKESH2bcLAK-050bcMASHbdE PLUS GAN2 TENUbcNE",
    "bdUNbcPAP PLUS PAPbcSHEbf PLUS A ANbmSHbo PLUS ASHbcUbd PLUS Ubd2 PLUS ASHbdRUDAbdSHrSAGqU",
    "r11t OVER NU11 BUR OVER BURuROTATED NINETY DEGREESuTENUrNs CROSSING NUNbf LAGAR OVER LAGAR",
    "tLAGAR TIMES GARbfMASHbfSALbi OVER NUN LAGAR TIMES SALbfUSHtOVER NUNtTENUsUZ",
    "u AB2 TIMES ASHGABbfBIbfDUGbfGUDbfIGI GUNUbfKAD3bfLAbfNEbfSILA3bfU2vKISIM5 TIMES BIbk UpPArD",
    "rNrPqESH2u ASTERISKqIr CROSSING PIsTIMES AzByBIzUyEyIzByUz2rR2sIGu OPPOSING PIRIGvTIMES KAL",
    "bbUDbbZApRArBqIqUpSArGs GUNUx TIMES HAtNUTILLUtOVER SAGtTIMES AzDUbbBzENzHAzIGI GUNUzKAKbaUR",
    "zLUMzMIzNUNzSALbaHE AT LEFTbbIDzTABbbK4zU2baBbaMbaRbaSHrLs LAGAB TIMES ASH2rNGA2rRqHAs3",
    "t TIMES AbaBADbaGISHbaNEbaSHU2baTURbaUbb PLUS As6t TENUsB6sR2rEs HUtOVER SHE",
    "bb GAD OVER GAD GAR OVER GARbcTAB OVER TAB GAR OVER GARtPLUS HUB2yNAM2ySARsG9sNsSHu2uLAMrID",
    "t TIMES AbaIMsMt TIMES AbaBALbbULUGbaDINbaGARbaIGIbd GUNUbaKUSHU2baLULbaMUGbaSALsNIGsR",
    "t OVER SHIR BUR OVER BURuTENUsTArUs OVER INVERTED SHUs2t PLUS DUG TIMES NIzE2 TIMES ANsBURqI",
    "r GUNUsTIMES TAK4rGs4t OVER SIG4 SHU2rK2rLA3qUr OVER SUrDs2rHURrMsASHrRs9pTAr ASTERISKsGUNU",
    "sTIMES HIyMIrBs OVER TAB NI OVER NI DISH OVER DISHtSQUAREDrGs TIMES BIzGUDzSHEbbUzTUG2zUDrK4",
    "t PLUS SAGrRqEr GUNUqIr TENUr2rLrRs OVER TIRbb GAD OVER GAD GAR OVER GARtTIMES TAK4qUrG2rKrM",
    "s TIMES GAN2 TENUzTHREE DISHrRs OVER TUR ZA OVER ZApUq GUDrOVER U PA OVER PA GAR OVER GAR",
    "ySUR OVER SURyU REVERSED OVER U REVERSEDrUs Uq2qBqDr GUNUsKUSHU2sSHESHIGz TIMES BAD",
    "sTIMES BADyMIyU PLUS U PLUS Ubn GUNUrUGqMr TIMES LAGAByMEba PLUS DAySHA3yUrBINrUM",
    "t TIMES KASKALbaPAqNr GUNUqRr CROSSING URsSHESHIGr2s INVERTEDtTIMES A PLUS HAbgNAbaLzHAzNUN",
    "zU2bb PLUS ASHbhBIbaDr4rIs3rUs TIMES AbaSHGABzBARzDARA3baUNzGAbbLbbN2 TENUbbRbaUzHAzIGIbaM",
    "baSHzKIzLAK-668baU3bbMzMINzPAzSHEbaIG4zTUzU PLUS GUDbaDbaRUDAsDAu TIMES UqSHs TIMES AzKUbbR",
    "zTAK4s2sUMXsXqTUKIqZ3s TIMES KASKALrUpZAr SQUARED TIMES KURsTENUr7rGrMXqE2qIr OVER ZIr3rB",
    "s KABA TENUrGrZ2qUr OVER ZU PLUS SARr5s TIMES AzTHREE DISH TENUrBURrMcP ON BLACK SQUARE",
    "eWITH STRAWdCAKEdIDOcRLING STONEeY BRACKET EXTENSIONgLOGICAL ANDoORiOPdRENCY EXCHANGEjSIGN",
    "eY AND RICEdVED STEM PARAGRAPH SIGN ORNAMENTcSTARDeOMScT OF MEATbYCLONEcLINDRICITY",
    "cPRIOT SYLLABLE ArErIrJAsOrKAsEsIsOsUrLAsEsIsOsUrMAsEsIsOsUrNAsEsIsOsUrOrPAsEsIsOsUrRAsEsIsO",
    "sUrSAsEsIsOsUrTAsEsIsOsUrUrWAsEsIsOrXAsErZAsOeO-MINOAN SIGN CM001w2w4w5w6w7w8w9v10w1w2xBw3w5",
    "w7w9v21w3w4w5w6w7w8w9v30w3w4w5w6w7w8w9v40w1w4w6w7w9v50w1w2w3w4w5w6w8w9v60w1w2w3w4w6w7w8w9v70",
    "w1w2w3w4w5xBw6w8w9v80w1w2w3w4w5w6w7w8w9v90w1w2w4w5w6w7w8w9u100w1w2w3w4w5w7w8w9v10w2w4u301w2",
    "cRILLIC CAPITAL LETTER Az WITH BREVEbfDIAERESISzBKHASIAN CHEbl WITH DESCENDERbiDZEbiHA",
    "zLEUT KAyBARRED Obg WITH DIAERESISbaSHKIR KAzEzIG YUSbaNOCULAR OzLENDED YUSzROAD OMEGA",
    "zYELORUSSIAN-UKRAINIAN IyCCHEzHEbb WITH DESCENDERbiIAERESISbhVERTICAL STROKE",
    "zLOSED LITTLE YUSzROSSED OyDCHEzEzJEbbRVzOUBLE MONOCULAR ObfOzWEzZEbbLObaHEbaWEbaZEbbHEyE",
    "z WITH DIAERESISzFzLba WITH DESCENDERbgHOOKbgMIDDLE HOOKbgTAILzMba WITH TAILzN",
    "ba WITH DESCENDERbgHOOKbgLEFT HOOKbgMIDDLE HOOKbgTAILzRba WITH TICKzSba WITH DESCENDERyFITA",
    "yGHEbb WITH DESCENDERbhMIDDLE HOOKbhSTROKEbn AND HOOKbhUPTURNzJEyHAba WITH DESCENDERbgHOOK",
    "bgSTROKEbaRD SIGNzWEyIz WITH DIAERESISbfGRAVEbfMACRONzEba WITH BREVEbgGRAVEzObaTAbbIFIED A",
    "bhBIG YUSbhCLOSED LITTLE YUSbhEbhLITTLE YUSbhYATzZHITSAbf WITH DOUBLE GRAVE ACCENTyJEyKA",
    "ba WITH DESCENDERbgHOOKbgSTROKEbgVERTICAL STROKEzHAKASSIAN CHEzJEzOMI DEbeJEbeZJEbdLJEbdNJE",
    "bdSJEbdTJEbdZJEbaPPAzSIyLHAzITTLE YUSzJEyMONOCULAR ObcGRAPH UKyNEUTRAL YERzJEyO",
    "z WITH DIAERESISzMEGAbd WITH TITLOzTyPEba WITH DESCENDERbgMIDDLE HOOKzSIyQAyREVERSED DZE",
    "bhTSEbhYUbhZEzHAzOUND OMEGAySCHWAbd WITH DIAERESISzEMISOFT SIGNzHAbaCHAbaHAbc WITH DESCENDER",
    "baORT Ibf WITH TAILbeUbaWEzOFT DEbdELbeMbdSIGNzTRAIGHT Ubi WITH STROKEyTCHEzE",
    "ba WITH DESCENDERbgMIDDLE HOOKzSEbaHEbaSEbaWEzWEyUz WITH DIAERESISbgOUBLE ACUTEbfMACRONzK",
    "baRAINIAN IEyVEyWEyYAbaEbaTzERUbc WITH BACK YERbiDIAERESISzIzNzUyZEba WITH DESCENDER",
    "bhIAERESISbaMLYAzHEbb WITH BREVEbhDESCENDERbiIAERESISbaWEsIGATURE A IEbaEN GHEbaTE TSE",
    "jKAVYKAjLETTER MULTIOCULAR OqPALOCHKAqSMALL CAPITAL ELjPAYEROKjSMALL LETTER Ax WITH BREVE",
    "bdDIAERESISxBKHASIAN CHEbj WITH DESCENDERbgDZEbgHAxLEUT KAwBARRED Obe WITH DIAERESIS",
    "ySHKIR KAxExIG YUSyNOCULAR OxLENDED YUSxROAD OMEGAxYELORUSSIAN-UKRAINIAN IwCCHExHE",
    "z WITH DESCENDERbgIAERESISbfVERTICAL STROKExLOSED LITTLE YUSxROSSED OwDCHExExJEzRV",
    "xOUBLE MONOCULAR ObdOxWExZEzLOyHEyWEyZEzHEwEx WITH DIAERESISxFxLy WITH DESCENDERbeHOOK",
    "beMIDDLE HOOKbeTAILxMy WITH TAILxNy WITH DESCENDERbeHOOKbeLEFT HOOKbeMIDDLE HOOKbeTAILxR",
    "y WITH TICKxSy WITH DESCENDERwFITAwGHEz WITH DESCENDERbfMIDDLE HOOKbfSTROKEbl AND HOOK",
    "bfUPTURNxJEwHAy WITH DESCENDERbeHOOKbeSTROKEyRD SIGNxWEwIx WITH DIAERESISbdGRAVEbdMACRONxE",
    "y WITH BREVEbeGRAVExOyTAzIFIED AbfBIG YUSbfCLOSED LITTLE YUSbfEbfLITTLE YUSbfYATxZHITSA",
    "bd WITH DOUBLE GRAVE ACCENTwJEwKAy WITH DESCENDERbeHOOKbeSTROKEbeVERTICAL STROKE",
    "xHAKASSIAN CHExJExOMI DEbcJEbcZJEbbLJEbbNJEbbSJEbbTJEbbZJEyPPAxSIwLHAxITTLE YUSxJE",
    "xONG-LEGGED DEwMONOCULAR ObaGRAPH UKwNARROW OxEUTRAL YERxJEwOx WITH DIAERESISxMEGA",
    "bb WITH TITLOxTwPALOCHKAxEy WITH DESCENDERbeMIDDLE HOOKxSIwQAwREVERSED DZEbfTSEbfYUbfZExHA",
    "xOUND OMEGAbbED VEwSCHWAbb WITH DIAERESISxEMISOFT SIGNxHAyCHAyHAba WITH DESCENDERyORT I",
    "bd WITH TAILbcUyWExOFT DEbbELbcMbbSIGNxTRAIGHT Ubg WITH STROKEwTALL HARD SIGNbbTEbbYATxCHExE",
    "y WITH DESCENDERbeMIDDLE HOOKxHREE-LEGGED TExSEyHEySEyWExWEwUx WITH DIAERESISbeOUBLE ACUTE",
    "bdMACRONxKyRAINIAN IExNBLENDED UKwVEwWExIDE ESwYAyEyTxERUba WITH BACK YERbgDIAERESISxIxNxU",
    "wZEy WITH DESCENDERbfIAERESISyMLYAxHEz WITH BREVEbfDESCENDERbgIAERESISyWEqIGATURE A IE",
    "yEN GHEyTE TSEjTHOUSANDS SIGN"]

end NetPlan.Text.CharacterName
