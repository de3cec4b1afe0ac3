/-!
# Names of characters: B

The names of characters that start with the letter B, as rows of a table.
-/

namespace NetPlan.Text.CharacterName

/-- The names that start with B. -/
def rowsB : List String :=
  ["aBABYe ANGELfBOTTLEfCHICKfSYMBOLcCK OF ENVELOPEfWITH LEFTWARDS ARROW ABOVE",
    "e-TILTED SHADOWED WHITE RIGHTWARDS ARROWeSLANTED SOUTH ARROW WITH HOOKED TAILbfRIZONTAL TAIL",
    "fPACEdONdTRIAN CAMELcDGERdMINTON RACQUET AND SHUTTLECOCKcGELdGAGE CLAIMdUETTE BREAD",
    "cLINESE ADEG ADEGjCARIK PAMUNGKAHrRERENpSIKIjDIGIT EIGHTpFIVEqOURpNINEpONEpSEVENqIXpTHREEqWO",
    "pZEROjLETTER AIKARArKARAv TEDUNGrRCHAIC JNYArSYURA SASAKqBAs KEMBANGqCAs LACAqDAs MADU",
    "uURDA ALPAPRANAzMAHAPRANAqEF SASAKrKARAqGAs GORAqHAqIKARAv TEDUNGqJAs JERAqKAs MAHAPRANA",
    "sF SASAKrHOT SASAKqLAs LENGAy TEDUNGqMAqNAs RAMBATrGArYAqOKARAv TEDUNGqPAs KAPALqRAs REPA",
    "x TEDUNGqSAs SAGAvPAqTAs LATIKtMURDA MAHAPRANAtTAWArZIR SASAKqUKARAv TEDUNGqVE SASAKqWAqYA",
    "qZAL SASAKjMUSICAL SYMBOL COMBINING BENDEbiENDEPbiGONGbiJEGOGANbiKEMPLIbo WITH JEGOGANbmUL",
    "bo WITH JEGOGANbiTEGEHyDAENGbaINGbaNGbc GEDEbdSURANGzENGbaUNGzINGzONGzUNG",
    "yLEFT-HAND CLOSED PLAKbrUKbiOPEN PANGboINGboUNGyRIGHT-HAND CLOSED TAKbrUKbjOPEN DAGbpUG",
    "jPAMADAp LANTANGmENENGlNTIo LANTANGjSIGN BISAHoCECEKoREREKANoSURANGoULU CANDRAsRICEM",
    "jVOWEL SIGN LA LENGAbc TEDUNGuPEPETz TEDUNGuRA REPAbb TEDUNGuSUKUy ILUTuTALINGba REPA",
    "bf TEDUNGbbTEDUNGvEDUNGuULUx SARIjWINDUdL OF YARNeET SHOESeOONh-SPOKED ASTERISK",
    "fT BOLD SCRIPT XjXk WITH BALLOTrOLD CHECKvSCRIPT XqCHECKqLIGHT XqSCRIPT XqXhSCRIPT XhX",
    "cMUM COLONiMBINING MARK KOQNDONvTUKWENTISjMAgFULL STOPgLETTER AnEEnFAAMAEoEEoOMoUnInKAoENpT",
    "pUXoIoOpGHOMpVUUoPAoUoYEEnLAoEEEEoIoOQoUnMoAoBAApENoEEEEpNoIoOoUnNAoDAAoGApGApKWAENoIoJAEM",
    "pEEpUAEoSHAoTEEpUUoUpAEoYInOnPAoEEpUXoHASE-A FIRIvGBIEE FONwHEUAEGHEUAEbbRAEvKAFAxQwET",
    "xUKEUTNDAwPOQwUOQvLAPAQwET KUTwOMMAEwUxAEPvMAEKEUPyMzBGBIEEzKPENzVEUXyNYIySIxNSUAExP PIEET",
    "wBANYIyQwEUNJOMNDEUQwGBASAwON NGGEUAETxOMEUTzPUQwVEUAENGAMvNAA MFONxQwDA LEERAEWAyANGGEUAET",
    "wENwGANGUxGENxKUE MFONbaNZEUMwIKAwJAMwKAARAExINDIwSHAyIEEwTAPz MFAAbaNTAAxOQPENwYETxI",
    "yT MONGKEUAEQwZA MFONxUN MEUTvPA LEERAEWAxAMyRAExMSHAExSHAEwETwON MFON PIPAEMBAbkGBIEE",
    "zPA NJI PIPAEMBAbmGBIEEwUPvROMvSEUNYAMwHINDA PA NJIyRAExOQ NSHUT YUMxUENSHUETyMwISAwONJAMxQ",
    "xTwUUvTEUAENyTEUWENwITA MFONwU MAEMBAxAEPvU YUQ NAEwNKNOWNvVEEtB FEExUXvGHEUGHENbcUAEMvKAM",
    "wEUAEMyPUQyYEUXwIEEMxQvLAANAExM NSHUT NYAMwETwOM NTEUMvMAx NJEUAENAbaUQAwBA MAELEEyARAExEURI",
    "xIT MBAAKETxUOQwEUQyT NGGEETwFIYAQxON TEUAEQwONTIEENvNDU NJAAwGGAAMyEU MBUyUOQbb LARGE",
    "xKINDI MVOPxOMwSENxHUETwTIEE SHEUOQwYAEMAExI NTEUMvPARUMwEESHIwITwUNGAAMvSAKEUAEwET TU",
    "wHET NJAQyUAEQTUwIEEwUEvTAAMwU MAEMGBIEEyNSIEEvVEUMvWUAETvYAFU LEERAEWAwEURAEtC BUNGvFUE",
    "vGBAYIwHAPyRAEvKAAwEN FATIGUEzLAWxTxUKAQyMySEUXzHEUAEPwPARAQwUOP NKAARAExTvLAMxPwIQwU",
    "vMA KEUAERIyNSIEExEMBAySIwBAA CABBAGE-TREEbaPICKETyNYIxEEKEETyRAEyUMzXxIyRIEENyTxUAEMyE",
    "wGBASAQwIEEwUAEvNANSANAQxQwDAMyPxEUAEREEzTxIDAxOMBUwGAQxGENyUzAEN NYAMzEETzMzONxKAQ",
    "yUE MAEMBAxOMwJAEMyMxEEEEyUXxUEQwSAxEUAENxHAQxOMxUNyOT NGOMwTAAxENyUNGBAxU MBIT",
    "wYIR MKPARAQ MEUNwZAxEUMvPENwINxRIEENvRUvSETFONxUXwHIQxUEQwUAETvTAASHAEwETxUTEUXwITA YUE",
    "yUAEPvVEUAEPENyXvWANGKUOQwUPvYAAwEUQwU MUOMAExMxWOQtD FAAwEUFEUAETvGHAAxEUAEvKETxUAETMEUNyM",
    "yOT MBUAEyPwUxNxOMxQwWAETwYEEvLEEEExTxUAEPyMwIEEwOQwUMvMwAENJETxLEERIwBAAz SEVENxUOwEEEExUN",
    "yTwFEUAEzTxIEExOyNwGBEUNyIEEyOFUMwONIwUwVOPvNDAMxEEyUXxONwGGAAMbbAEzPyEUXyUOMyWAENxKAPyEUAEQ",
    "baRIyIEEyUNyYEEwIwJAPxEUAEMzTxIyEExUEQwSHEEyUTxIEEPbaTxUMwTEEyUMxUUwUwYAMxETxIxUEvPAPwEE",
    "xUTAEwIPwUQxUTvRAEMwEN MUCHzOLDwIIvSAPxQwEUAEQwHEEyUAEzXxIIxOQxUwOTwUAExExUvTAEwEEEExUAENyN",
    "yTwIwOQwUxOTvWAPwUAENvYAEMMAEwENwUOMyPxWOQtE AvFAxQwEEwOMwU CALLyIyREMEDYxEyTvGBETyUXwHAAMAE",
    "xETyUAEzNzXxOMvIvKETxUAEyXwIwOwPEUXwUETxOPxTvLAAMxPxQwEUAEMwOMxONyTxQwUvMAxEyMxPxQwBEEyUMwEN",
    "wFEUQwGBAyENwIxEEwONwUAEwVIvNAxEwDAA MY HOUSEbaSOFTNESSyPxIAQyQxUNwGAxEUREUTxGEEEEzUAEbcT",
    "yUAESHAE NYAMzPzRAExKAzAMIyEUAEMbaXyUMzPxOPyQxUAEbaTwJAEMLIxEEz EPOCHyUXwKOMwSHIEEyUEzOPwTAP",
    "xUMwYI BETWEENzCLEAVERwZAQxUQvOvPA PEOPLEzLURALxAyMwEEMxUTyXwIxEEQyTwOxONwUxAEyQxExMvRAExQ",
    "wEUXwIMGBAvSAAwEExTwHEUAEQxIQxOyQwOMwUAENvTAAyQxEN NTEUMxMxQwENxUyAEQwOOyNxQwUAExMyAEvVEE",
    "xUAEwOMvWEUXwUExOvYAPwEUAEbaTyMyXwIEExTwOQ COVERzSWIMMINGwUAENxEQxNxQtF EEvFOMvKAwENxTwOwPA",
    "wUwYEEvLAwIwOQvMwAwBAAxENwEEEEwOvNDAAwGGAxKWAENwIwJAEMxUAEwSHAwTEEwUxAEwYIvPEExUXwUAEvREExN",
    "xUXwIEExIwUvSAMBAwEUXwHIIxOxUwIwUUvTAAxEwETvUvVUEQvWAwUEvYAwOQoIoUAEpEnRAEoEEpNpUXoIEEpIoU",
    "nSAMBAoEUXoHEUXpIIpOpUoIoUUnTAApEoENpToInUnWAoUEnYAoOQoUQgNJAEMLIgQUESTION MARKgSEMICOLON",
    "cNANAdJOdKeNOTE WITH DOLLAR SIGNoEURO SIGNoPOUND SIGNoYEN SIGNcR CHARTeOF SOAPdBER POLE",
    "cSEBALLdKETgBALL AND HOOPdSA VAH COMBINING HIGH TONEy-LOW TONEuLOW TONEx-MID TONEuMID TONE",
    "kFULL STOPkLETTER ArBArCErDHIIsOrEsEsNNIrFArGAHsBUrHWAHrIrJOrKAsPAHrMBErOsOrPArSErTOrUsWUrVU",
    "rWAtDDArYEINsIErZOcTdAK CONSONANT SIGN HvNGgLETTER AnBAnCAnDAnGAnHAnInJAnKARO BAnLAnMA",
    "pNDAILING HAyNAySAoBAnNAoDAoGAoORTHERN TAoYAnPApKPAK WAnRAnSAoIMALUNGUN AyGAyHAyLAyMAyPAyRA",
    "ySAyWAyYAoOUTHERN TAnUnWAnYAgPANGOLATjONGONANgSIGN TOMPIhYMBOL BINDU JUDULtNA METEKtPANGOLAT",
    "uINARBORASgVOWEL SIGN EsErIrKARO IwOrOrPAKPAK ErUs FOR SIMALUNGUN SAdHeTUBdTERY",
    "bEACH WITH UMBRELLAdMED ASCENDING MUSICAL NOTEShDESCENDING MUSICAL NOTEShEIGHTH NOTES",
    "hSIXTEENTH NOTESdNSdR FACEeDED PERSONdTING HEARTdVERcCAUSEcDcER MUGdTLEcLdLe PEPPERfSYMBOL",
    "fWITH CANCELLATION STROKEeHOP BELLcNGALI ABBREVIATION SIGNjNJIjU LENGTH MARK",
    "iCURRENCY DENOMINATOR SIXTEENrNUMERATOR FOURbbONEbe LESS THAN THE DENOMINATORbbTHREEbcWO",
    "iDIGIT EIGHToFIVEpOURoNINEoONEoSEVENpIXoTHREEpWOoZEROiGANDA MARKiISSHARiLETTER AqAqIqUpBAqHA",
    "pCAqHApDAqDArHAqHApEpGAqHApHApIqIpJAqHApKAqHAsNDA TApLApMApNAqGAqNAqYApOpPAqHApRA",
    "r WITH LOWER DIAGONALxMIDDLE DIAGONALqHAqRApSAqHAqSApTAqHAqTArHApUqUpVEDIC ANUSVARAqOCALIC L",
    "yLxRyRpYAqYAiRUPEE MARKoSIGNiSANDHI MARKjIGN ANUSVARAoVAGRAHAnCANDRABINDUnNUKTAnVIRAMApSARGA",
    "iVOWEL SIGN AAuIuUtEtIuItOtUuUtVOCALIC LbcLbbRbcRdT ARROW POINTING DOWNWARDS THEN NORTH EAST",
    "eO BOXdZENE RINGm WITH CIRCLEcT SYMBOLdWEENcVERAGE BOXbHAIKSUKI DANDAlIGIT EIGHTqFIVErOUR",
    "qNINEqONEqSEVENrIXqTHREErWOqZEROlOUBLE DANDAkGAP FILLER-1v2kHUNDREDS UNIT MARKkLETTER AsAsI",
    "sUrBAsHArCAsHArDAsDAtHAsHArErGAsHArHArIsIrJAsHArKAsHArLArMArNAsGAsNAsYArOrPAsHArRArSAsHAsSA",
    "rTAsHAsTAtHArUsUrVAsOCALIC LzRbaRrYAkNUMBER EIGHTwYrFIFTYtVEsORTYtURrNINEvTYrONErSEVENwTYsIX",
    "uTYrTENsHIRTYtREEsWENTYtOkSIGN ANUSVARAqVAGRAHApCANDRABINDUpVIRAMArSARGAkVOWEL SIGN AAwIwUvE",
    "vIwIvOvUwUvVOCALIC LbdRbeRkWORD SEPARATORbICYCLEgISTcG REVERSE SOLIDUSeSOLIDUScKINIcLLED CAP",
    "eIARDScOHAZARD SIGNcRDdTHDAY CAKEcSONcTCOIN SIGNdING LIPbLACK BOWTIEgCENTRE WHITE STAR",
    "hHESS BISHOPs ROTATED NINETY DEGREESbbTWO HUNDRED SEVENTY DEGREESmEQUIHOPPER",
    "w ROTATED NINETY DEGREESmKINGq ROTATED NINETY DEGREESzTWO HUNDRED SEVENTY DEGREESnNIGHT",
    "s ROTATED FORTY-FIVE DEGREESbbNINETY DEGREESbbONE HUNDRED THIRTY-FIVE DEGREES",
    "bbTHREE HUNDRED FIFTEEN DEGREESbcWO HUNDRED SEVENTY DEGREESbnTWENTY-FIVE DEGREESs-BISHOP",
    "tQUEENtROOKmPAWNq ROTATED NINETY DEGREESzTWO HUNDRED SEVENTY DEGREESmQUEEN",
    "r ROTATED NINETY DEGREESbaTWO HUNDRED SEVENTY DEGREESmROOKq ROTATED NINETY DEGREES",
    "zTWO HUNDRED SEVENTY DEGREESmTURNED BISHOPtKINGuNIGHTtPAWNtQUEENtROOKhIRCLEm FOR RECORD",
    "nWITH DOWN ARROWsTWO WHITE DOTSsWHITE DOT RIGHThLUB SUIThROSS ON SHIELD",
    "hURVED DOWNWARDS AND LEFTWARDS ARROWbbRIGHTWARDS ARROWnLEFTWARDS AND DOWNWARDS ARROW",
    "bbUPWARDS ARROWnRIGHTWARDS AND DOWNWARDS ARROWbcUPWARDS ARROWnUPWARDS AND LEFTWARDS ARROW",
    "zRIGHTWARDS ARROWgDIAMONDn CENTREDoMINUS WHITE XoON CROSSoSUIToWITH DOWN ARROW",
    "hOWN POINTING BACKHAND INDEXk-POINTING DOUBLE TRIANGLEuISOSCELES RIGHT TRIANGLE",
    "uSMALL TRIANGLEuTRIANGLEkWARDS EQUILATERAL ARROWHEADhRAUGHTS KINGpMANiOPLETgFLAGiORETTE",
    "hOLDERiUR POINTED STARgHARD SHELL FLOPPY DISKhEARTl SUITiXAGONhORIZONTAL ELLIPSEiURGLASS",
    "gLARGE CIRCLEmSQUAREhEFT LANE MERGElPOINTING BACKHAND INDEXuINDEXk-POINTING DOUBLE TRIANGLE",
    "bj WITH VERTICAL BARuISOSCELES RIGHT TRIANGLEuPOINTERuSMALL TRIANGLEuTRIANGLEkWARDS BULLET",
    "qEQUILATERAL ARROWHEADhOWER LEFT TRIANGLEmRIGHT TRIANGLEiZENGEgMEDIUM DIAMOND",
    "oOWN-POINTING TRIANGLEbj CENTREDnLEFT-POINTING TRIANGLEbj CENTREDoOZENGE",
    "nRIGHT-POINTING TRIANGLEbk CENTREDnSMALL DIAMONDtLOZENGEtSQUAREoQUAREnUP-POINTING TRIANGLE",
    "bh CENTREDhOON LILITHgNIBgOCTAGONgPARALLELOGRAMhENNANTjTAGONhUSHPINgQUESTION MARK ORNAMENT",
    "gRECTANGLEhIGHT POINTING BACKHAND INDEXvINDEXl-POINTING DOUBLE TRIANGLEbk WITH VERTICAL BAR",
    "vISOSCELES RIGHT TRIANGLEvPENTAGONwOINTERvSMALL TRIANGLEvTRIANGLEbd WITH DOUBLE VERTICAL BAR",
    "lWARDS ARROWwHEADrBULLETrEQUILATERAL ARROWHEADhOSETTEgSAFETY SCISSORShCISSORShHOGI PIECE",
    "hKULL AND CROSSBONEShLIGHTLY SMALL CIRCLEvSQUAREhMALL DIAMONDmLOZENGEmSQUAREnTARiILING FACE",
    "hNOWMANhPADE SUIThQUAREm BUTTONnCENTREDnFOR STOPhTARhUN WITH RAYSgTELEPHONEhINY DIAMOND",
    "lLOZENGElSQUAREhOUCHTONE TELEPHONEhRUCKhWO-WAY LEFT WAY TRAFFICgUNIVERSAL RECYCLING SYMBOL",
    "hP POINTING BACKHAND INDEXi-POINTING DOUBLE TRIANGLEsISOSCELES RIGHT TRIANGLEsSMALL TRIANGLE",
    "sTRIANGLEiPER LEFT TRIANGLEmRIGHT TRIANGLEiWARDS EQUILATERAL ARROWHEADgVERTICAL ELLIPSE",
    "pRECTANGLEjY SMALL DIAMONDrLOZENGErSQUAREf-FEATHERED NORTH EAST ARROWqRIGHTWARDS ARROW",
    "qSOUTH EAST ARROWgLETTER CAPITAL CvHvIvRvZdNK SYMBOLcOCK SEXTANT-1p2q3r4s5s6r5s6r6q4r5s6r6q5",
    "r6q6p3q4r5s6r6q56q6p4q5r6q6p5q6p6o2p3q4r5s6r6q5r6q6p4q5r6p5q6p6o3p4q5r6q6p5q6p6o4p5q6p6o5p6",
    "o6dSSOMdWFISHcUE BOOKfHEARTeBERRIESbOARcLD EIGHT SPOKED ASTERISKfFIVE SPOKED ASTERISK",
    "fGREEK CROSSfSALTIREgIX SPOKED ASTERISKfWHITE CIRCLElSQUAREcMdBcNEcOKeMARKi TABSeSdMERANG",
    "cPOMOFO FINAL LETTER GwHwKwPwTjLETTER ArHrIsNNrMrNsGsNrUsNNqBrUqCrHqDqErErHrIrNsGsNrRqFqGrH",
    "rNrUrWqHqIrHrMrNNtNrRrUqJrIqKrWqLrHqMqNrGsGrNqOr WITH DOT ABOVErErMrNGsNrOrUqPqQqRqSrHqTqU",
    "rNNqVqXqZrHrIrYcTTLE WITH POPPING CORKeOM ARC ANTICLOCKWISE ARROWhCURLY BRACKET",
    "hHALF BLACK CIRCLEmINTEGRALmLEFT PARENTHESISmRIGHT PARENTHESIShLEFT CORNERnROPmHALF BRACKET",
    "hPARENTHESIShRIGHT CORNERoROPnHALF BRACKEThSQUARE BRACKETv OVER TOP SQUARE BRACKET",
    "hTORTOISE SHELL BRACKETcUQUETh OF FLOWERScW AND ARROWdL OF HYGIEIAfWITH SPOONeINGdTIE",
    "g WITH LEFT HALF BLACKmRIGHT HALF BLACKcX DRAWINGS DOUBLE DOWN AND HORIZONTALbdLEFTbdRIGHT",
    "uHORIZONTALuUP AND HORIZONTALbbLEFTbbRIGHTuVERTICALbc AND HORIZONTALbhLEFTbhRIGHT",
    "pWN DOUBLE AND HORIZONTAL SINGLEbdLEFT SINGLEbdRIGHT SINGLEsHEAVY AND HORIZONTAL LIGHT",
    "bcLEFT LIGHTbhUP LIGHTbcRIGHT LIGHTbiUP LIGHTbcUP HORIZONTAL LIGHT",
    "sLIGHT AND HORIZONTAL HEAVYbcLEFT HEAVYbhUP HEAVYbcRIGHT HEAVYbiUP HEAVY",
    "bcUP HORIZONTAL HEAVYsSINGLE AND HORIZONTAL DOUBLEbdLEFT DOUBLEbdRIGHT DOUBLE",
    "nHEAVY DOUBLE DASH HORIZONTALbfVERTICALvWNx AND HORIZONTALbcLEFTbcRIGHTtHORIZONTALtLEFT",
    "x AND LIGHT RIGHTtQUADRUPLE DASH HORIZONTALbiVERTICALtRIGHTtTRIPLE DASH HORIZONTALbfVERTICAL",
    "tUPv AND HORIZONTALbaLEFTbbIGHT DOWNbaRIGHTtVERTICALbb AND HORIZONTALbgLEFTbgRIGHT",
    "nLEFT DOWN HEAVY AND RIGHT UP LIGHTsHEAVY AND RIGHT DOWN LIGHTbiUP LIGHTbiVERTICAL LIGHT",
    "sLIGHT AND RIGHT DOWN HEAVYbiUP HEAVYbiVERTICAL HEAVYsUP HEAVY AND RIGHT DOWN LIGHT",
    "oIGHT ARC DOWN AND LEFTbgRIGHTxUP AND LEFTbeRIGHTtDIAGONAL CROSSbcDIAMOND",
    "bcMIDDLE LEFT TO LOWER CENTREcd TO MIDDLE RIGHTbrUPPER CENTRE TO MIDDLE RIGHT",
    "ct TO LOWER CENTREbjRIGHT TO LOWER CENTREbsUPPER CENTRE TO MIDDLE LEFT TO LOWER CENTRE",
    "bcUPPER CENTRE TO MIDDLE LEFTcd AND MIDDLE RIGHT TO LOWER CENTREceTO LOWER CENTRE",
    "ct TO MIDDLE RIGHTbzRIGHTce AND MIDDLE LEFT TO LOWER CENTREcfTO LOWER CENTRE",
    "cu TO MIDDLE LEFTbiLEFT TO LOWER RIGHTbiRIGHT TO LOWER LEFTuOUBLE DASH HORIZONTALbfVERTICAL",
    "vWNx AND HORIZONTALbcLEFTbcRIGHTtHORIZONTALbd WITH VERTICAL STROKEtLEFTx AND HEAVY RIGHT",
    "tQUADRUPLE DASH HORIZONTALbiVERTICALtRIGHTtTRIPLE DASH HORIZONTALbfVERTICALtUP",
    "v AND HEAVY DOWNbbORIZONTALbaLEFTbaRIGHTtVERTICALbb AND HORIZONTALbgLEFTbgRIGHT",
    "nRIGHT DOWN HEAVY AND LEFT UP LIGHTtHEAVY AND LEFT DOWN LIGHTbiUP LIGHTbiVERTICAL LIGHT",
    "tLIGHT AND LEFT DOWN HEAVYbiUP HEAVYbiVERTICAL HEAVYtUP HEAVY AND LEFT DOWN LIGHT",
    "nUP DOUBLE AND HORIZONTAL SINGLEbbLEFT SINGLEbbRIGHT SINGLEqHEAVY AND DOWN HORIZONTAL LIGHT",
    "baHORIZONTAL LIGHTbaLEFT DOWN LIGHTbfLIGHTbaRIGHT DOWN LIGHTbgLIGHT",
    "qLIGHT AND DOWN HORIZONTAL HEAVYbaHORIZONTAL HEAVYbaLEFT DOWN HEAVYbfHEAVYbaRIGHT DOWN HEAVY",
    "bgHEAVYqSINGLE AND HORIZONTAL DOUBLEbbLEFT DOUBLEbbRIGHT DOUBLE",
    "nVERTICAL DOUBLE AND HORIZONTAL SINGLEbhLEFT SINGLEbhRIGHT SINGLEwHEAVY AND HORIZONTAL LIGHT",
    "bgLEFT LIGHTbgRIGHT LIGHTwLIGHT AND HORIZONTAL HEAVYbgLEFT HEAVYbgRIGHT HEAVY",
    "wSINGLE AND HORIZONTAL DOUBLEbhLEFT DOUBLEbhRIGHT DOUBLEdING GLOVEcYdS SYMBOLbPHbRAHMI DANDA",
    "iIGIT EIGHTnFIVEoOURnNINEnONEnSEVENoIXnTHREEoWOnZEROiOUBLE DANDAhLETTER ApApIpUoBApHAoCApHA",
    "oDApDAqHApHAoEoGApHAoHAoIpIoJApHAoKApHAoLApLAoMAoNApGApNApYAoOpLD TAMIL LLAbaLAyNNNAyRRA",
    "ySHORT EbeOoPApHAoRAoSApHApSAoTApHApTAqHAoUpUoVApOCALIC LxLwRxRoYAhNUMBER EIGHTtYoFIFTYqVE",
    "pORTYqURoJOINERoNINEsTYoONEr HUNDREDsTHOUSANDoSEVENtTYpIXrTYoTENpHIRTYqREEpWENTYqO",
    "hPUNCTUATION CRESCENT BARtDOTvUBLE DOTtLINEuOTUShSIGN ANUSVARAmCANDRABINDUmJIHVAMULIYA",
    "mOLD TAMIL VIRAMAmUPADHMANIYAmVISARGAhVIRAMAiOWEL SIGN AAtItUsBHATTIPROLU AAsEsItIsO",
    "tLD TAMIL SHORT EbiOsUtUsVOCALIC LbbLbaRbbRdILLE PATTERN BLANKqDOTS-1w2x3y4z5ba6bb7bc8bb8ba7",
    "bb8ba8z6ba7bb8ba8z7ba8z8y5z6ba7bb8ba8z7ba8z8y6z7ba8z8y7z8y8x4y5z6ba7bb8ba8z7ba8z8y6z7ba8z8y7",
    "z8y8x5y6z7ba8z8y7z8y8x6y7z8y8x7y8x8w3x4y5z6ba7bb8ba8z7ba8z8y6z7ba8z8y7z8y8x5y6z7ba8z8y7z8y8",
    "x6y7z8y8x7y8x8w4x5y6z7ba8z8y7z8y8x6y7z8y8x7y8x8w5x6y7z8y8x7y8x8w6x7y8x8w7x8w8v2w3x4y5z6ba7",
    "bb8ba8z7ba8z8y6z7ba8z8y7z8y8x5y6z7ba8z8y7z8y8x6y7z8y8x7y8x8w4x5y6z7ba8z8y7z8y8x6y7z8y8x7y8x8",
    "w5x6y7z8y8x7y8x8w6x7y8x8w7x8w8v3w4x5y6z7ba8z8y7z8y8x6y7z8y8x7y8x8w5x6y7z8y8x7y8x8w6x7y8x8w7",
    "x8w8v4w5x6y7z8y8x7y8x8w6x7y8x8w7x8w8v5w6x7y8x8w7x8w8v6w7x8w8v7w8v8eNcEADeK PERMITTED HERE",
    "eST-FEEDINGdVEcICKdDE WITH VEILeGE AT NIGHTdEFCASEfScOCCOLIdKEN BAR",
    "hCIRCLE WITH NORTHWEST ARROWhHEARTdOMdWN HEARTbSbUBBLE TEAgScCKETcGdINESE END OF SECTION",
    "jLETTER AqBAqCAqDAqGAqHAqJAqKAqLAqMArPAqNArGAsKArRArYAsCAqPAqRAqSAqTAqVAqYAjPALLAWA",
    "jVOWEL SIGN AEuEuIuOuUcHID LETTER AnBAnDAnGAnHAnInKAnLAnMAnNAoGAnPAnRAnSAnTAnUnWAnYA",
    "gVOWEL SIGN IrUcILDING CONSTRUCTIONcLLETg OPERATOReHORNi WITH SOUND WAVESeSEYEcRRITOcSd STOP",
    "dT IN SILHOUETTEeS IN SILHOUETTEcTTERgFLYbYTE ORDER MARKcZANTINE MUSICAL SYMBOL AGOGI ARGI",
    "biOTERIbfGORGIbjOTERIbfMESIbhTRIAbfPOLI ARGIbkGORGIbaNATRICHISMAbbTIKENOKYLISMAbhMA",
    "baPESO EKFONITIKONbgXO NEObbLIbbODERMA ARCHAIONbiNEObcSTROFOI SYNDESMOS NEO",
    "bkTELOUS ICHIMATOSbiSbj DIPLIbkNEObcTHEMAbaRGONbdSYNTHETONbbKTIKO DIbhGAbhKEbhNIbhPAbhVOU",
    "bhZOzCHAMILIbfONbbOREVMA ARCHAIONbiNEObbROA KLITONbfSPATHIbfZYGOSzDASEIAbaIARGON",
    "bcSTOLI APLI MEGALIboIKRIbiDIPLIbiTHESEOSbbESIS APLI DYO DODEKATAbgDIGRAMMOS EX DODEKATA",
    "bgMONOGRAMMOS TESSERA DODEKATAbgTETARTIMORIONbhRIGRAMMOS OKTO DODEKATAbjTIMORIONbbFTOGGOS OU",
    "bbGORGONbh PARESTIGMENON ARISTERA ANOcfKATObwDEXIAbcRAMMA GGbbPLIbe ARCHAIONbaYOzEKSTREPTON",
    "baLAFRONbaNARXIS KAI FTHORA VOUbbDOFONONbaPEGERMAbaTERON ARGOSYNTHETONbgPARAKALESMA",
    "baXO EKFONITIKONzFANEROSIS DIFONIASbjMONOFONIASbjTETRAFONIASbaHTORA SKLIRON CHROMA VASIS",
    "baTHORA ARCHAIONbo DEYTEROU ICHOUbgDIATONIKI DIbqKEbqNANAbrI ANObtKATObqPAbqZO",
    "bgENARMONIOS ANTIFONIAbgI YFESIS TETARTIMORIONbgMALAKON CHROMA DIFONIASbvMONOFONIAS",
    "bgNAOS ICHOSbhENANObgSKLIRON CHROMA SYNAFIbvVASISboDIATONON DIzGENIKI DIESISbgYFESIS",
    "baORGON ARCHAIONbgNEO ANObkKATObgPARESTIGMENON ARISTERAbuDEXIAbeSYNTHETONbcTHMIKON N APLOUN",
    "bmDIPLOUNbaRONTHISMATAzICHADINbaMIDIARGONbcFONONbdTHORAbhONbaSAKIA TELOUS ICHIMATOS",
    "bbON ARCHAIONbeNEOzKATAVA TROMIKONbfSMAbcHISTIbaENTIMA ARCHAIONbhNEO ANOblKATOblMESObgTA",
    "bi ARCHAIONbjNEO ANObnKATObnMESObaLASMAbf ANObgKATObaONTEVMAbh ALLObbRONISbbUFISMA",
    "baRATIMA ALLObiRCHAIONbhNEObgTAbfOKOUFISMAbgYPORROONbbEMASTIbaYLISMAzLEIMMA DYO CHRONON",
    "bgENOS CHRONOUbgIMISEOS CHRONOUbgTESSARON CHRONONbhRION CHRONONbbMOIbaYGISMA",
    "zMARTYRIA ALLI DEYTEROS ICHOSbnPROTOS ICHOSbiDEYTEROS ICHOSbiLEGETOS ICHOSbiPLAGIOS ICHOS",
    "bqTETARTOS ICHOSbjROTOS ICHOSbnVARYS ICHOSbiTETARTOS ICHOSbrLEGETOS ICHOSbjRIFONIAS",
    "blTOS ICHOSbiVARYS ICHOSbaIKRON ISONzNANAzOLIGON ARCHAIONbgNEObaMALONbaXEIA DIPLI",
    "bfEKFONITIKONbfNEObeI ARCHAIONbaYRANISMA ARCHAIONbjNEOzPARAKALESMA ARCHAIONblNEObeLITIKI",
    "bk ARCHAIONblNEObcICHONbaELASTONbh NEObbRISPOMENIbbTASMAbeTIbfOKOUFISMAbaIASMA ARCHAIONbgNEO",
    "baSIFISTOLYGISMAbhNbi NEObhPARAKALESMAbhSYNAGMAbcLIbdONzRAPISMAbaEVMAzSAXIMATAbaEISMAbf NEO",
    "baIMANSIS ARSEOSbo DISIMOUbpTETRASIMOUbqRISIMOUbiTHESEOSbp DISIMOUbqTETRASIMOUbrRISIMOU",
    "baTAVROSbg APODEXIAbbIGMAbbRAGGISMATAbaYNAGMA ARCHAIONbhMETA STAVROUbhNEObcEVMAbbRMAbeTIKI",
    "zTELEIAbbSSERAbbTRAPLIbaHEMAbe APLOUNbeTISMOS ESObmXObcS KAI APOTHESbbITAbaINAGMAbaRIA",
    "bcGORGONbcPLIbbOMIKOLYGISMAbgN ALLObjRCHAIONbiNEObgPARAKALESMAbhSIFISTONbgSYNAGMA",
    "zVAREIA DIPLIbgEKFONITIKONbgNEObfI ARCHAIONbbTHYzXIRON KLASMAzYFEN ANObeKATO",
    "bcSIS APLI DYO DODEKATAbgDIGRAMMOS EX DODEKATAbgMONOGRAMMOS TESSERA DODEKATA",
    "bgTRIGRAMMOS OKTO DODEKATAbjTIMORIONbaPOKRISISbi DIPLIbcRROIbbSILI"]

end NetPlan.Text.CharacterName
