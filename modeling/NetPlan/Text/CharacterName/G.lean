/-!
# Names of characters: G, H, I and J

The names of characters that start with the letters G, H, I and J, as rows of a table.
-/

namespace NetPlan.Text.CharacterName

/-- The names that start with G. -/
def rowsG : List String :=
  ["aGAME DIEcRLICbEARe WITH HANDLESjOUT HUBcM STONEdINIcNIEcOMETRIC PROPORTIONjALLY EQUAL TO",
    "rIVALENT TOdRGIAN CAPITAL LETTER AENzNyBANyCANzHARbaINzILyDONyENyGANzHANyHAEbaRzEzIEzOEyIN",
    "yJHANzILyKANzHARyLASyMANyNARyONyPARzHARyQARyRAEySANzHINyTANbaRyUNyVINyWEyXANyYNyZENzHAR",
    "jLETTER AENrINrNqBANqCANrHARsINrILqDONqELIFIrNqFIqGANrHANqHAEsRtD SIGNrErIErOEqINqJHANrIL",
    "qKANrHARqLABIAL SIGNsSqMANqNARqONqPARrHARqQARqRAEqSANrHINqTANsRrURNED GANqUNqVINqWEqXANqYN",
    "qZENrHARjMTAVRULI CAPITAL LETTER AENbiINbiNbhBANbhCANbiHARbjINbiILbhDONbhELIFIbiNbhFIbhGAN",
    "biHANbhHAEbjRbkD SIGNbiEbiIEbiOEbhINbhJHANbiILbhKANbiHARbhLABIAL SIGNbjSbhMANbhNARbhONbhPAR",
    "biHARbhQARbhRAEbhSANbiHINbhTANbjRbiURNED GANbhUNbhVINbhWEbhXANbhYNbhZENbiHAR",
    "jPARAGRAPH SEPARATORjSMALL LETTER AENxNwBANwCANxHARyINxILwDONwENwGANxHANwHAEyRxExIExOEwIN",
    "wJHANxILwKANxHARwLASwMANwNARwONwPARxHARwQARwRAEwSANxHINwTANyRwUNwVINwWEwXANwYNwZENxHAR",
    "cRMAN PENNY SIGNcTA MARKbHOSTbIMEL SYMBOLcRAFFE FACEdLeS SYMBOLbLAGOLITIC CAPITAL LETTER AZU",
    "baBIG YUSbbUKYbaCAUDATE CHRIVIbbHRIVIbaDJERVIbbOBRObbZELObaFITAbbRITUbaGLAGOLIbaHERUbaI",
    "bbNITIAL IZHEbbOTATED BIG YUSbiSMALL YUSbbZHEbdITSAbaKAKObaLATINATE MYSLITEbbJUDIJEbaMYSLITE",
    "baNASHIbaONUbbTUbaPEbbOKOJIbaRITSIbaSHAbcTAbePICbbLOVObbMALL YUSbj WITH TAILbbPIDERY HA",
    "baTROKUTASTI AbbSIbbVRIDObaUKUbaVEDEbaYATIbbERIbdUbcSTUbbObbUbaZEMLJAbbHIVETE",
    "lSMALL LETTER AZUyBIG YUSzUKYyCAUDATE CHRIVIzHRIVIyDJERVIzOBROzZELOyFITAzRITUyGLAGOLIyHERUyI",
    "zNITIAL IZHEzOTATED BIG YUSbgSMALL YUSzZHEbbITSAyKAKOyLATINATE MYSLITEzJUDIJEyMYSLITEyNASHI",
    "yONUzTUyPEzOKOJIyRITSIySHAbaTAbcPICzLOVOzMALL YUSbh WITH TAILzPIDERY HAyTROKUTASTI AzSI",
    "zVRIDOyUKUyVEDEyYATIzERIbbUbaSTUzOzUyZEMLJAzHIVETEdSS OF MILKcEICH STARKcOBE WITH MERIDIANS",
    "dVESdWING STARbOAL NETdTcGGLEScLFERcRILLAcTHIC LETTER AHSApIHVUSoBAIRKANoDAGSoEISoFAIHUoGIBA",
    "oHAGLpWAIRoIGGWSpUJAoJERoKUSMAoLAGUSoMANNAoNAUTHSpINE HUNDREDsTYoOTHALoPAIRTHRAoQAIRTHRA",
    "oRAIDAoSAUILoTEIWSpHIUTHoURUSoWINJAbRADUATION CAPdNTHA AU LENGTH MARKiLETTER AqAqIqUpBAqHA",
    "pCAqHApDAqDArHAqHApEEpGAqHApHApIqIpJAqHApKAqHApLAqLApMApNAqGAqNAqYApOOpPAqHApRApSAqHAqSApTA",
    "qHAqTArHApUqUpVAqEDIC ANUSVARAvDOUBLE ANUSVARAqOCALIC LyLxRyRpYAiOMiSIGN ANUSVARAoVAGRAHA",
    "nCANDRABINDUoOMBINING ANUSVARA ABOVEnNUKTAnPLUTAnVIRAMApSARGAiVOWEL SIGN AAuIuUtEEtIuItOOtU",
    "uUtVOCALIC LbcLbbRbcRdPESdVE ACCENTcEATER-THAN ABOVE DOUBLE-LINE EQUAL ABOVE LESS-THAN",
    "tLESS-THAN ABOVE DOUBLE-LINE EQUALtRIGHTWARDS ARROWtSIMILAR ABOVE LESS-THANbbOR EQUAL",
    "uLANTED EQUAL ABOVE LESS-THAN ABOVE SLANTED EQUALoND NOT APPROXIMATE",
    "rSINGLE-LINE NOT EQUAL TOnBESIDE LESS-THANoUT NOT EQUAL TOyIVALENT TOnCLOSED BY CURVE",
    "bc ABOVE SLANTED EQUALnEQUAL TO OR LESS-THANnOR APPROXIMATEqEQUAL TOtIVALENT TOqLESS-THAN",
    "qSLANTED EQUAL TObg WITH DOT ABOVEbv LEFTbqINSIDEoVER EQUAL TOrLAPPING LESS-THANnSIGN",
    "nWITH CIRCLE INSIDEsDOTsQUESTION MARK ABOVEdEK ACROPHONIC ATTIC FIFTYbc STATERSbdTALENTS",
    "beHOUSANDbl STATERSzVEbb HUNDREDbj STATERSbkTALENTSbcSTATERSbcTALENTSbdHOUSANDbk TALENTS",
    "xONE DRACHMAbbHALFbcUNDRED STATERSbjTALENTSbbQUARTERbbTHOUSAND STATERSbkTALENTSxTEN MNAS",
    "bbSTATERSbbTALENTSbcHOUSAND STATERSrCARYSTIAN FIVE HUNDREDsYRENAIC TWO DRACHMAS",
    "rDELPHIC FIVE MNASrEPIDAUREAN FIVE HUNDREDbcTWObf DRACHMASrHERAEUM ONE PLETHRON",
    "uMIONIAN FIFTYbcONEbcTENrMESSENIAN TENrNAXIAN FIVE HUNDREDrSTRATIAN FIFTY MNAS",
    "rTHESPIAN FIFTYbcVE HUNDREDbfTHOUSANDbaONEbd HUNDREDbeTHOUSANDbaTENbbHIRTYbcREE HUNDREDbbWO",
    "sROEZENIAN FIFTYbh ALTERNATE FORMbeVEbg HUNDREDbcTENbf ALTERNATE FORMhNO TELEIAhROURA SIGN",
    "iTABE SIGNgBETA SYMBOLgCAPITAL DOTTED LUNATE SIGMA SYMBOLoKAI SYMBOLoLETTER ALPHA",
    "ba WITH DASIAbl AND OXIAbu AND PROSGEGRAMMENIbqPERISPOMENIcb AND PROSGEGRAMMENI",
    "brROSGEGRAMMENIbqVARIAbv AND PROSGEGRAMMENIbgMACRONbgOXIAbgPROSGEGRAMMENIbhSILIbl AND OXIA",
    "bu AND PROSGEGRAMMENIbqPERISPOMENIcb AND PROSGEGRAMMENIbrROSGEGRAMMENIbqVARIA",
    "bv AND PROSGEGRAMMENIbgTONOSbgVARIAbhRACHYwRCHAIC SAMPIvBETAvCHIvDELTAvEPSILONbc WITH DASIA",
    "bn AND OXIAbsVARIAbiOXIAbiPSILIbn AND OXIAbsVARIAbiTONOSbiVARIAwTAy WITH DASIAbj AND OXIA",
    "bs AND PROSGEGRAMMENIboPERISPOMENIbz AND PROSGEGRAMMENIbpROSGEGRAMMENIboVARIA",
    "bt AND PROSGEGRAMMENIbeOXIAbePROSGEGRAMMENIbfSILIbj AND OXIAbs AND PROSGEGRAMMENI",
    "boPERISPOMENIbz AND PROSGEGRAMMENIbpROSGEGRAMMENIboVARIAbt AND PROSGEGRAMMENIbeTONOSbeVARIA",
    "vGAMMAvHETAvIOTAz WITH DASIAbk AND OXIAbpPERISPOMENIbpVARIAbgIALYTIKAbfMACRONbfOXIAbfPSILI",
    "bk AND OXIAbpPERISPOMENIbpVARIAbfTONOSbfVARIAbgRACHYvKAPPAvLAMDAvMUvNUvOMEGAba WITH DASIA",
    "bl AND OXIAbu AND PROSGEGRAMMENIbqPERISPOMENIcb AND PROSGEGRAMMENIbrROSGEGRAMMENIbqVARIA",
    "bv AND PROSGEGRAMMENIbgOXIAbgPROSGEGRAMMENIbhSILIbl AND OXIAbu AND PROSGEGRAMMENI",
    "bqPERISPOMENIcb AND PROSGEGRAMMENIbrROSGEGRAMMENIbqVARIAbv AND PROSGEGRAMMENIbgTONOSbgVARIA",
    "xICRONbc WITH DASIAbn AND OXIAbsVARIAbiOXIAbiPSILIbn AND OXIAbsVARIAbiTONOSbiVARIA",
    "vPAMPHYLIAN DIGAMMAwHIwIwSIvRHOy WITH DASIAvSANwHOwIGMAvTAUwHETAvUPSILONbc WITH DASIA",
    "bn AND OXIAbsPERISPOMENIbsVARIAbjIALYTIKAbiMACRONbiOXIAbiTONOSbiVARIAbjRACHYvXIvYOTvZETA",
    "pUNATE SIGMA SYMBOLoREVERSED DOTTED LUNATE SIGMA SYMBOLxLUNATE SIGMA SYMBOLoTHETA SYMBOL",
    "gDASIAl AND OXIAqPERISPOMENIqVARIAhIALYTIKA AND OXIAuPERISPOMENIuVARIAqTONOShRACHMA SIGN",
    "gFIVE OBOLS SIGNhOUR OBOLS SIGNgGRAMMA SIGNgINDICTION SIGNiSTRUMENTAL NOTATION SYMBOL-1bk1",
    "bk2bk3bk4bk7bk8bk9bj2bk3bk4bk5bk6bk7bk9bj30bk2bk6bk7bk8bk9bj4bk0bk2bk3bk5bk7bk8bk9bj5bk0bk1",
    "bk2bk3bk4bj7bj8gKAI SYMBOLiPPA SYMBOLhORONIShYATHOS BASE SIGNgLETTER ARCHAIC KOPPAnDIGAMMA",
    "nKOPPAnSAMPIoMALL CAPITAL GAMMAbbLAMDAbbOMEGAbbPIbcSIbbRHOoTIGMAnYOThITRA SIGN",
    "hOWER NUMERAL SIGNhUNATE EPSILON SYMBOLnSIGMA SYMBOLgMETRETES SIGNhUSICAL LEIMMA",
    "gNUMERAL SIGNgOBOL SIGNhNE HALF SIGNt ALTERNATE FORMkQUARTER SIGNhUNKIA SIGNhXIAgPERISPOMENI",
    "hHI SYMBOLhI SYMBOLhROSGEGRAMMENIhSILIl AND OXIAqPERISPOMENIqVARIAgQUESTION MARK",
    "gREVERSED LUNATE EPSILON SYMBOLhHO SYMBOLkWITH STROKE SYMBOLgSINUSOID SIGN",
    "hMALL DOTTED LUNATE SIGMA SYMBOLmLETTER ALPHAy WITH DASIAbj AND OXIAbs AND YPOGEGRAMMENI",
    "boPERISPOMENIbz AND YPOGEGRAMMENIboVARIAbt AND YPOGEGRAMMENIboYPOGEGRAMMENIbeMACRONbeOXIA",
    "bi AND YPOGEGRAMMENIbePERISPOMENIbp AND YPOGEGRAMMENIbfSILIbj AND OXIAbs AND YPOGEGRAMMENI",
    "boPERISPOMENIbz AND YPOGEGRAMMENIboVARIAbt AND YPOGEGRAMMENIboYPOGEGRAMMENIbeTONOSbeVARIA",
    "bj AND YPOGEGRAMMENIbfRACHYbeYPOGEGRAMMENIuRCHAIC KOPPAbbSAMPItBETAtCHItDELTAuIGAMMAtEPSILON",
    "ba WITH DASIAbl AND OXIAbqVARIAbgOXIAbgPSILIbl AND OXIAbqVARIAbgTONOSbgVARIAuTAw WITH DASIA",
    "bh AND OXIAbq AND YPOGEGRAMMENIbmPERISPOMENIbx AND YPOGEGRAMMENIbmVARIAbr AND YPOGEGRAMMENI",
    "bmYPOGEGRAMMENIbcOXIAbg AND YPOGEGRAMMENIbcPERISPOMENIbn AND YPOGEGRAMMENIbdSILIbh AND OXIA",
    "bq AND YPOGEGRAMMENIbmPERISPOMENIbx AND YPOGEGRAMMENIbmVARIAbr AND YPOGEGRAMMENI",
    "bmYPOGEGRAMMENIbcTONOSbcVARIAbh AND YPOGEGRAMMENIbcYPOGEGRAMMENItFINAL SIGMAtGAMMAtHETAtIOTA",
    "x WITH DASIAbi AND OXIAbnPERISPOMENIbnVARIAbeIALYTIKAbm AND OXIAbrPERISPOMENIbrTONOSbrVARIA",
    "bdMACRONbdOXIAbdPERISPOMENIbeSILIbi AND OXIAbnPERISPOMENIbnVARIAbdTONOSbdVARIAbeRACHYtKAPPA",
    "uOPPAtLAMDAtMUtNUtOMEGAy WITH DASIAbj AND OXIAbs AND YPOGEGRAMMENIboPERISPOMENI",
    "bz AND YPOGEGRAMMENIboVARIAbt AND YPOGEGRAMMENIboYPOGEGRAMMENIbeOXIAbi AND YPOGEGRAMMENI",
    "bePERISPOMENIbp AND YPOGEGRAMMENIbfSILIbj AND OXIAbs AND YPOGEGRAMMENIboPERISPOMENI",
    "bz AND YPOGEGRAMMENIboVARIAbt AND YPOGEGRAMMENIboYPOGEGRAMMENIbeTONOSbeVARIA",
    "bj AND YPOGEGRAMMENIbeYPOGEGRAMMENIvICRONba WITH DASIAbl AND OXIAbqVARIAbgOXIAbgPSILI",
    "bl AND OXIAbqVARIAbgTONOSbgVARIAtPAMPHYLIAN DIGAMMAuHIuIuSItRHOw WITH DASIAbcPSILItSAMPIvN",
    "uHOuIGMAuTIGMAtTAUuHETAtUPSILONba WITH DASIAbl AND OXIAbqPERISPOMENIbqVARIAbhIALYTIKA",
    "bp AND OXIAbuPERISPOMENIbuTONOSbuVARIAbgMACRONbgOXIAbgPERISPOMENIbhSILIbl AND OXIA",
    "bqPERISPOMENIbqVARIAbgTONOSbgVARIAbhRACHYtXItZETAmREVERSED DOTTED LUNATE SIGMA SYMBOL",
    "vLUNATE SIGMA SYMBOLhUBSCRIPT SMALL LETTER BETAbdCHIbdGAMMAbdPHIbdRHOhYMBOL TAU RHO",
    "gTALENT SIGNhHETA SYMBOLiREE OBOLS SIGNmQUARTERS SIGNhONOShRYBLION BASE SIGNhWO OBOLS SIGN",
    "kTHIRDS SIGNgUPSILON WITH ACUTE AND HOOK SYMBOLtDIAERESIS AND HOOK SYMBOLtHOOK SYMBOLgVARIA",
    "hOCAL NOTATION SYMBOL-1bd0bd1bd2bd3bd4bd5bd6bd7bd8bd9bc2bd0bd1bd2bd3bd4bc3bc4bc5bd0bd1bd2bd3",
    "bd4bc6bc7bc8bc9gXESTES SIGNgYEAR SIGNhPOGEGRAMMENIgZERO SIGNeN APPLEgBOOKgHEARTgSALAD",
    "cIMACING FACEdNNING CAT FACE WITH SMILING EYESjFACEn WITH ONE LARGE AND ONE SMALL EYE",
    "tSMILING EYESuTAR EYEScOUP MARKgSEPARATORdWING HEARTbSbUARANI SIGNeDSMANcIDE DOGdTAR",
    "cJARATI ABBREVIATION SIGNjDIGIT EIGHTpFIVEqOURpNINEpONEpSEVENqIXpTHREEqWOpZEROjLETTER ArArI",
    "rUqBArHAqCArHAqDArDAsHArHAqEqGArHAqHAqIrIqJArHAqKArHAqLArLAqMAqNArGArNArYAqOqPArHAqRAqSArHA",
    "rSAqTArHArTAsHAqUrUqVArOCALIC LzLyRzRqYAqZHAjOMjRUPEE SIGNjSIGN ANUSVARApVAGRAHAoCANDRABINDU",
    "pIRCLE NUKTA ABOVEoMADDAHoNUKTAoSHADDApUKUNoTHREE-DOT NUKTA ABOVEpWO-CIRCLE NUKTA ABOVE",
    "oVIRAMAqSARGAjVOWEL CANDRA EwOpSIGN AAvIvUuCANDRA EbbOuEuIvIuOuUvUuVOCALIC LbdLbcRbdR",
    "cNJALA GONDI DIGIT EIGHTuFIVEvOURuNINEuONEuSEVENvIXuTHREEvWOuZEROoLETTER AwAwIwUvBAwHAvCAwHA",
    "vDAwDAxHAwHAvEEvGAwHAvHAvIwIvJAwHAvKAwHAvLAwLAvMAvNAwGAvOOvPAwHAvRAvSAvTAwHAwTAxHAvUwUvVAvYA",
    "oOMoSIGN ANUSVARAtVISARGAoVIRAMApOWEL SIGN AAbaIbaUzEEzIbaIzOOzUbaUcRMUKHI ABBREVIATION SIGN",
    "kDDAKjDIGIT EIGHTpFIVEqOURpNINEpONEpSEVENqIXpTHREEqWOpZEROjEK ONKARjIRIjLETTER ArArIrUqBArHA",
    "qCArHAqDArDAsHArHAqEEqFAqGArHAsHAqHAqIrIqJArHAqKArHAsHAqLArLAqMAqNArGArNArYAqOOqPArHAqRArRA",
    "qSArHAqTArHArTAsHAqUrUqVAqYAqZAjSIGN ADAK BINDIoBINDIoNUKTAoUDAAToVIRAMAqSARGAoYAKASHjTIPPI",
    "jURAjVOWEL SIGN AAvIvUuEEuIvIuOOuUvU"]

/-- The names that start with H. -/
def rowsH : List String :=
  ["aHADEScIR SPACEeCUTcLFWIDTH BLACK SQUAREkDOWNWARDS ARROWkFORMS LIGHT VERTICALkHANGUL FILLER",
    "rLETTER AzEyCHIEUCHzIEUCyEzOzUyHIEUHyIzEUNGyKHIEUKHzIYEOKbe-SIOSyMIEUMyNIEUNbd-CIEUCbeHIEUH",
    "yOzEyPHIEUPHzIEUPbd-SIOSyRIEULbd-HIEUHbeKIYEOKbeMIEUMbePHIEUPHbfIEUPbeSIOSbeTHIEUTHySIOS",
    "zSANGCIEUCbdKIYEOKbdPIEUPbdSIOSbdTIKEUTyTHIEUTHzIKEUTyUyWAbaEzEbaOzIyYAbaEzEbaOzIzOzU",
    "kIDEOGRAPHIC COMMAwFULL STOPkKATAKANA LETTER AbaEbaHAbbEbbIbbObbUbaIbaKAbbEbbIbbObbUbaMAbbE",
    "bbIbbObbUbaNbbAbbEbbIbbObbUbaObaRAbbEbbIbbObbUbaSAbbEbbIbbMALL AbgEbgIbgObgTUbgUbgYAbhObhU",
    "bbObbUbaTAbbEbbIbbObbUbaUbaWAbbObaYAbbObbUtMIDDLE DOTtSEMI-VOICED SOUND MARK",
    "tVOICED SOUND MARKs-HIRAGANA PROLONGED SOUND MARKkLEFT CORNER BRACKEToWARDS ARROW",
    "kRIGHT CORNER BRACKETpWARDS ARROWkUPWARDS ARROWkWHITE CIRCLEcMBURGERdMERg AND PICKlSICKLE",
    "lWRENCHdSAeTER FACEcND WITH INDEX AND MIDDLE FINGERS CROSSEDqFINGER AND THUMB CROSSEDeBAGgLL",
    "eSHAKEdGUL CHOSEONG CEONGCHIEUMCHIEUCHbcIEUCbbSIOSbcSANGCIEUCbgSIOSrHIEUCHx-HIEUHyKHIEUKH",
    "tTUEUMCHIEUCHzIEUCySIOSzSANGCIEUCbdSIOSrIEUCv-IEUNGqFILLERqHIEUHv-SIOSqIEUNGv-CHIEUCHxIEUC",
    "wHIEUHwKIYEOKwMIEUMwPANSIOSxHIEUPHxIEUPwRIEULwSIOSwTHIEUTHxIKEUTqKAPYEOUNMIEUMyPHIEUPHzIEUP",
    "yRIEULySSANGPIEUPrHIEUKHrIYEOKw-TIKEUTqMIEUMv-KIYEOKwPIEUPwSIOSwTIKEUTqNIEUNv-CIEUCwHIEUH",
    "wKIYEOKwPIEUPwSIOSwTIKEUTqPANSIOSrHIEUPHx-HIEUHyPIEUPrIEUPv-CHIEUCHxIEUCwHIEUHwKHIEUKHxIYEOK",
    "wNIEUNwPHIEUPHwSIOSba-CIEUCbbKIYEOKbbPIEUPbbTHIEUTHbcIKEUTxSANGSIOSwTHIEUTHxIKEUTqRIEUL",
    "v-CIEUCwHIEUHwKAPYEOUNPIEUPxHIEUKHxIYEOKwMIEUMwNIEUNwPIEUPwSIOSxSANGKIYEOKbbPIEUPbbTIKEUT",
    "wTIKEUTqSIOSu-CHIEUCHwIEUCvHIEUHvIEUNGvKHIEUKHwIYEOKvMIEUMvNIEUNvPHIEUPHwIEUPba-KIYEOKvRIEUL",
    "vSSANGSIOSvTHIEUTHwIKEUTrSANGCIEUCba-HIEUHvHIEUHvIEUNGvKIYEOKvNIEUNvPIEUPvRIEULvSIOSz-PIEUP",
    "vTHIEUTHwIKEUTvYEORINHIEUHqTHIEUTHrIKEUTw-CIEUCxKIYEOKxMIEUMxPIEUPxRIEULxSIOSqYEORINHIEUH",
    "sSIEUNGhDOUBLE DOT TONE MARKhFILLERhJONGSEONG CHIEUCHsIEUCw-PIEUPxSSANGPIEUPrHIEUHw-MIEUM",
    "xNIEUNxPIEUPxRIEULrIEUNGw-KHIEUKHyIYEOKxSSANGKIYEOKrKAPYEOUNMIEUMzPHIEUPHbaIEUPzRIEULsHIEUKH",
    "sIYEOKx-CHIEUCHyHIEUHyKHIEUKHyNIEUNyPIEUPyRIEULySIOSbc-KIYEOKrMIEUMw-CHIEUCHyIEUCxHIEUH",
    "xKIYEOKxNIEUNxPANSIOSyIEUPbc-SIOSxRIEULxSIOSySANGNIEUNbcSIOSrNIEUNw-CHIEUCHyIEUCxHIEUH",
    "xKIYEOKxPANSIOSxRIEULxSIOSxTHIEUTHyIKEUTrPANSIOSy-KAPYEOUNPIEUPzPIEUPsHIEUPHy-PIEUPzSIOS",
    "zTHIEUTHsIEUPw-CHIEUCHyIEUCxHIEUHxMIEUMxPHIEUPHxRIEULbc-PHIEUPHxSIOSbb-TIKEUTxTIKEUTrRIEUL",
    "w-HIEUHxKAPYEOUNPIEUPyHIEUKHyIYEOKbd-HIEUHbeSIOSxMIEUMbc-HIEUHbdKIYEOKbdSIOSxNIEUNxPANSIOS",
    "yHIEUPHyIEUPbc-HIEUHbdPHIEUPHbdSIOSbdTIKEUTxSIOSySANGKIYEOKbcSIOSxTHIEUTHyIKEUTbd-HIEUH",
    "xYEORINHIEUHbi-HIEUHzSIEUNGrSIOSv-CHIEUCHxIEUCwHIEUHwKAPYEOUNPIEUPxIYEOKwMIEUMwPANSIOSxIEUP",
    "wRIEULwTHIEUTHxIKEUTsSANGCIEUCwIEUNGwKIYEOKwMIEUMwNIEUNwPIEUPwRIEULbb-KHIEUKHwSIOSba-KIYEOK",
    "bbTIKEUTwTIKEUTbc-PIEUPwYESIEUNGrTHIEUTHsIKEUTx-CHIEUCHzIEUCyKIYEOKyPIEUPyRIEULySIOS",
    "bc-KIYEOKyTHIEUTHrYEORINHIEUHtSIEUNGz-HIEUHbaKHIEUKHbbIYEOKbaMIEUMbaPANSIOSbaSIOS",
    "bbSANGKIYEOKiUNGSEONG As-EUtOtUsEsRAEAw-AxEyOxIxUrEsOt-EUuOuUsUt-AuEvOvUuOuUrFILLERrIs-A",
    "uRAEAtEUtItOu-ItUtYAv-OvEuEvOuOuUrOs-EuOtOu-ItUtYAvEuEvOsErSSANGARAEArUs-AuEtEO-EUtI-ItUtYE",
    "vOrWAtEsEtOsIrYAt-OuUuYOtEsEtOu-OvUvYAsIt-UsOt-AvEuEOuIuOuYAwEvEOsUt-AvEuEvOuIuOuUuYEwO",
    "hLETTER ApEpRAEAtEoCHIEUCHpIEUCoEpOpUoHIEUHoIpEUNGoKAPYEOUNMIEUMwPHIEUPHxIEUPwSSANGPIEUP",
    "pHIEUKHpIYEOKu-SIOSoMIEUMt-PANSIOSvIEUPuSIOSoNIEUNt-CIEUCuHIEUHuPANSIOSuSIOSuTIKEUToOpE",
    "oPANSIOSpHIEUPHpIEUPt-CIEUCuKIYEOKuSIOSy-KIYEOKzTIKEUTuTHIEUTHvIKEUToRIEULt-HIEUHuKIYEOK",
    "ba-SIOSuMIEUMuPANSIOSvHIEUPHvIEUPz-SIOSuSIOSuTHIEUTHvIKEUTuYEORINHIEUHoSIOSs-CIEUCtKIYEOK",
    "tNIEUNtPIEUPtTIKEUTpSANGCIEUCtHIEUHtIEUNGtKIYEOKtNIEUNtPIEUPtSIOStTIKEUToTHIEUTHpIKEUToUoWA",
    "qEpEqOpIoYAqEpEqOrRINHIEUHqSIEUNGw-PANSIOSxSIOSpIpOq-IrYAtEpUq-IrYEtOhSINGLE DOT TONE MARK",
    "eZHOU NUMERAL EIGHTrFIVEsOURrNINErONErSEVENsIXrTENsHIRTYtREEsWENTYtO",
    "dIFI ROHINGYA DIGIT EIGHTwFIVExOURwNINEwONEwSEVENxIXwTHREExWOwZEROqLETTER AxBAxCAxDAyDAxFA",
    "xGAxHAxJAxKAyHAyINNA WAbdYAxLAxMAxNAyGAyYAxPAxRAyRAxSAyHAxTAyTAxVAxWAxYAxZAqMARK NA KHONNA",
    "vSAKINqSIGN HARBAHAYvTAHALAxNAxSSIqVOWEL AwEwIwOwUdUNOO LETTER ApBApDApGApHApIpKApLApMApNA",
    "qGApPApRApSApTApUpWApYAiSIGN PAMUDPODiVOWEL SIGN ItUcPPY PERSON RAISING ONE HANDcRD DISK",
    "cTCHING CHICKdRAN LETTER ALEPHpYNoBETHoDALETH-RESHoGIMELoHEqTHoKAPHoLAMEDHoMEMoNUNoPEoQOPH",
    "oSADHEqMEKHpHINoTAWpETHoWAWoYODHoZAYNhNUMBER FIVEoONEr HUNDREDoTENpWENTYbEADPHONEeSTONE",
    "j GRAVEYARD SYMBOLdR-NO-EVIL MONKEYeT DECORATIONgHANDSgWITH ARROWlRIBBONlTIP ON THE LEFT",
    "dVY AMPERSAND ORNAMENThRROW SHAFT WIDTH ONEbb HALFbcTHIRDyTWO THIRDShSTERISKgBALLOT X",
    "hLACK CURVED DOWNWARDS AND RIGHTWARDS ARROWtUPWARDS AND RIGHTWARDS ARROWmHEART",
    "l-FEATHERED NORTH EAST ARROWwRIGHTWARDS ARROWwSOUTH EAST ARROWgCHECK MARKjVRON SNOWFLAKE",
    "hIRCLEm WITH CIRCLE INSIDEsSTROKE AND TWO DOTS ABOVEmD SALTIRE",
    "hONCAVE-POINTED BLACK RIGHTWARDS ARROWgDASHED TRIANGLE-HEADED RIGHTWARDS ARROWhIVISION SIGN",
    "hOLLAR SIGNiUBLE COMMA QUOTATION MARK ORNAMENTnTURNED COMMA QUOTATION MARK ORNAMENT",
    "iWNWARDS ARROW WITH EQUILATERAL ARROWHEADbbLARGE EQUILATERAL ARROWHEAD",
    "gEIGHT POINTED BLACK STARuPINWHEEL STARuRECTILINEAR BLACK STARmSPOKED ASTERISK",
    "mTEARDROP-SPOKED PROPELLER ASTERISKhQUALS SIGNhXCLAMATION MARK ORNAMENTxSYMBOL",
    "gFIVE POINTED BLACK STARlSPOKED ASTERISKhOUR BALLOON-SPOKED ASTERISKgGREEK CROSS",
    "gHEART EXCLAMATION MARK ORNAMENThORIZONTAL FILLgINTERROBANG ORNAMENTgLARGE CIRCLEiTIN CROSS",
    "hEFT-POINTING ANGLE BRACKET ORNAMENTbaQUOTATION MARK ORNAMENT",
    "kWARDS ARROW WITH EQUILATERAL ARROWHEADbbLARGE EQUILATERAL ARROWHEAD",
    "hIGATURE OPEN ET ORNAMENThOW DOUBLE COMMA QUOTATION MARK ORNAMENT",
    "kSINGLE COMMA QUOTATION MARK ORNAMENTjER RIGHT-SHADOWED WHITE RIGHTWARDS ARROWgMINUS SIGN",
    "hULTIPLICATION XgNORTH EAST ARROWrPOINTING BUDbaVINE LEAFmWEST POINTING BUDbaVINE LEAF",
    "gOPEN CENTRE CROSShUTLINED BLACK STARhVAL WITH OVAL INSIDEgPLUS SIGN",
    "gRIGHT-POINTING ANGLE BRACKET ORNAMENTbbQUOTATION MARK ORNAMENTlWARDS ARROW",
    "w WITH EQUILATERAL ARROWHEADbcLARGE EQUILATERAL ARROWHEADhOUND-TIPPED RIGHTWARDS ARROW",
    "gSALTIREiNS-SERIF INTERROBANG ORNAMENThCRIPT LIGATURE ET ORNAMENT",
    "hINGLE COMMA QUOTATION MARK ORNAMENTnTURNED COMMA QUOTATION MARK ORNAMENT",
    "iX POINTED BLACK STARkSPOKED ASTERISKhOUTH EAST ARROWrPOINTING BUDbaVINE LEAF",
    "mWEST POINTING BUDbaVINE LEAFhPARKLEgTEARDROP-SHANKED RIGHTWARDS ARROWqPOKED ASTERISK",
    "wPINWHEEL ASTERISKhRIANGLE-HEADED RIGHTWARDS ARROWhWELVE POINTED BLACK STARvPINWHEEL STAR",
    "gUPPER RIGHT-SHADOWED WHITE RIGHTWARDS ARROWiWARDS ARROW WITH EQUILATERAL ARROWHEAD",
    "zLARGE EQUILATERAL ARROWHEADgVERTICAL BARgWEDGE-TAILED RIGHTWARDS ARROWhHITE CIRCLE",
    "mDOWN-POINTING TRIANGLEmSQUAREhIDE-HEADED RIGHTWARDS ARROWcBREW ACCENT ATNAH HAFUKHoDARGA",
    "pEHIoETNAHTAoGERESHu MUQDAMrSHAYIMoILUYoMAHAPAKHpERKHAu KEFULApUNAHoOLEoPASHTAqZERoQADMA",
    "qRNEY PARAoREVIAoSEGOLpHALSHELEToTELISHA GEDOLAwQETANAqVIRpIPEHAoYERAH BEN YOMOqTIV",
    "oZAQEF GADOLuQATANqRQApINORhLETTER ALEFs WITH MAPIQyPATAHyQAMATSqTERNATIVE AYINbaPLUS SIGN",
    "pYINoBETr WITH DAGESHxRAFEoDALETt WITH DAGESHoFINAL KAFx WITH DAGESHuMEMuNUNuPEw WITH DAGESH",
    "uTSADIoGIMELt WITH DAGESHoHEq WITH MAPIQqToKAFr WITH DAGESHxRAFEoLAMEDt WITH DAGESHoMEM",
    "r WITH DAGESHoNUNr WITH DAGESHoPEq WITH DAGESHwRAFEoQOFr WITH DAGESHoRESHs WITH DAGESH",
    "oSAMEKHu WITH DAGESHpHINs WITH DAGESHbe AND SHIN DOTbkIN DOTySHIN DOTzIN DOToTAV",
    "r WITH DAGESHpETr WITH DAGESHpSADIt WITH DAGESHoVAVr WITH DAGESHxHOLAMoWIDE ALEFtDALET",
    "tFINAL MEMtHEtKAFtLAMEDtRESHtTAVoYODr WITH DAGESHxHIRIQoZAYINt WITH DAGESH",
    "iIGATURE ALEF LAMEDqYIDDISH DOUBLE VAVbfYODyVAV YODyYOD YOD PATAHhMARK LOWER DOT",
    "mMASORA CIRCLEmUPPER DOThPOINT DAGESH OR MAPIQnHATAF PATAHtQAMATStSEGOLoIRIQoOLAM",
    "s HASER FOR VAVnJUDEO-SPANISH VARIKAnMETEGnPATAHnQAMATSt QATANoUBUTSnRAFEnSEGOLoHEVApIN DOT",
    "oIN DOTnTSEREiUNCTUATION GERESHwSHAYIMtMAQAFtNUN HAFUKHAtPASEQtSOF PASUQhYOD TRIANGLEcDGEHOG",
    "cLICOPTERdLSCHREIBER PAUSE SYMBOLdM SYMBOLeET WITH WHITE CROSScNTAIGANA LETTER A-1u2u3uWO",
    "sE-1u2u3u4u5u6sHA-1w0w1v2v3v4v5v6v7v8v9tE-1v2v3v4v5v6v7tI-1v2v3v4v5v6v7tO-1v2v3v4v5v6v7v8",
    "tU-1v2v3sI-1u2u3u4sKA-1w0w1v2v3v4v5v6v7v8v9vKEtE-1v2v3v4v5v6tI-1v2v3v4v5v6v7v8tO-1v2v3vKI",
    "tU-1v2v3v4v5v6v7sMA-1v2v3v4v5v6v7tE-1v2vMAtI-1v2v3v4v5v6v7tO-1v2v3v4v5v6tU-1v2v3v4sN-MU-MO-1",
    "ba2tA-1v2v3v4v5v6v7v8v9tE-1v2v3v4v5v6vKOtI-1v2v3v4v5v6v7vTEtO-1v2v3v4v5tU-1v2v3sO-1u2u3sRA-1",
    "v2v3v4tE-1v2v3v4tI-1v2v3v4v5v6v7tO-1v2v3v4v5v6tU-1v2v3v4v5v6sSA-1v2v3v4v5v6v7v8tE-1v2v3v4v5",
    "tI-1v2v3v4v5v6tO-1v2v3v4v5v6v7tU-1v2v3v4v5v6v7v8sTA-1v2v3v4tE-1v2v3v4v5v6v7v8v9tI-1v2v3v4v5",
    "v6v7tO-1v2v3v4v5v6vRAtU-1v2v3v4vTOsU-1u2u3u4u5sWA-1v2v3v4v5tE-1v2v3v4tI-1v2v3v4v5tO-1v2v3v4",
    "v5v6v7sYA-1v2v3v4v5vYOtO-1v2v3v4v5v6tU-1v2v3v4cRBdMITIAN CONJUGATE MATRIX",
    "cXAGRAM FOR ABUNDANCEoFTER COMPLETIONoPPROACHnBEFORE COMPLETIONoITING THROUGHoREAKTHROUGH",
    "nCOMING TO MEETpNFLICTqTEMPLATIONnDARKENING OF THE LIGHToECREASEpLIVERANCEpVELOPMENT",
    "oIFFICULTY AT THE BEGINNINGpSPERSIONoURATIONnENTHUSIASMnFELLOWSHIPoOLLOWING",
    "nGATHERING TOGETHERoRACEpEAT POSSESSIONvWERuREPONDERANCEtTAMINGnHOLDING TOGETHERnINCREASE",
    "pFLUENCEpNER TRUTHqOCENCEnLIMITATIONnMODESTYpUTH CORNERSnOBSTRUCTIONoPPOSITIONqRESSIONnPEACE",
    "oROGRESSoUSHING UPWARDnRETREATqURNpVOLUTIONnSMALL PREPONDERANCEtTAMINGoPLITTING APART",
    "oTANDSTILLnTHE ABYSMAL WATERsRMYtOUSING THUNDERrCAULDRONsLINGING FIREsREATIVE HEAVENrFAMILY",
    "rGENTLE WINDrJOYOUS LAKErKEEPING STILL MOUNTAINrMARRYING MAIDENrRECEPTIVE EARTHrWANDERERsELL",
    "oREADINGnWAITINGoORK ON THE DECAYEDnYOUTHFUL FOLLYbIBISCUScGH BRIGHTNESS SYMBOLfOCTET PRESET",
    "fVOLTAGE SIGNe-HEELED SHOEfSPEED TRAINq WITH BULLET NOSEcKING BOOTcNDU TEMPLEcPPOPOTAMUS",
    "cRAGANA DIGRAPH YORIjITERATION MARKjLETTER ArRCHAIC WUyYEqBArErIrOrUqDArErIrOrUqEqGArErIrOrU",
    "qHArErIrOrUqIqKArErIrOrUqMArErIrOrUqNrArErIrOrUqOqPArErIrOrUqRArErIrOrUqSArErIrMALL AwEwIwKA",
    "xEwOwTUwUwWAxExIxOwYAxOxUrOrUqTArErIrOrUqUqVUqWArErIrOqYArOrUqZArErIrOrU",
    "jVOICED ITERATION MARKcSTORIC SITEbOCHOcLEdLOW QUILT SQUARE ORNAMENTbc IN BLACK SQUARE",
    "cMOTHETICcNEY POTfBEEcOKcPcRIZONTAL BARmLACK HEXAGONrOCTAGONlELLIPSISlLINE EXTENSION",
    "lMALE WITH STROKE SIGNlONE EIGHTH BLOCK-1358bc2bc3bc4bc5bc6bc7lSCAN LINE-1v3v7v9lTAB KEY",
    "oULATIONv SETwWITH JUSTIFICATIONmRAFFIC LIGHTdSEf FACEgRACINGcSPITALcT BEVERAGEeDOGePEPPER",
    "eSPRINGSdELcURGLASSj WITH FLOWING SANDdSEf BUILDINGoSgWITH GARDENbRYVNIA SIGNbTcJcS",
    "bUGGING FACEcNDRED POINTS SYMBOLcSHED FACEcTbYGIEAcPHENg BULLEThWITH DIAERESISg-MINUS",
    "gATION POINTdODIASTOLEcSTERESIS SYMBOL"]

/-- The names that start with I. -/
def rowsI : List String :=
  ["aI LOVE YOU HAND SIGNbCE CREAMfUBEeHOCKEY STICK AND PUCKeSKATEbDENTICAL TO",
    "m AND SLANTED PARALLELkWITH DOT ABOVEgFICATION CARDdOGRAPHIC ANNOTATION BOTTOM MARK",
    "xEARTH MARKxFIRST MARKyOUR MARKbbTH MARKxHEAVEN MARKxLINKING MARKxMAN MARKyIDDLE MARK",
    "xONE MARKxREVERSE MARKxSECOND MARKxTHIRD MARKzREE MARKyOP MARKyWO MARKmCLOSING MARKnOMMA",
    "mDEPARTING TONE MARKoSCRIPTION CHARACTER ABOVE TO BELOWbrMIDDLE AND BELOWbiFULL SURROUND",
    "biLEFT TO MIDDLE AND RIGHTbqRIGHTbiOVERLAIDbiSURROUND FROM ABOVEbwBELOWbwLEFTbxOWER LEFT",
    "bwUPPER LEFTccRIGHTmENTERING TONE MARKmFULL STOPmHALF FILL SPACEmITERATION MARK",
    "mLEVEL TONE MARKmNUMBER ZEROmRISING TONE MARKmSPACEmTALLY MARK FIVEyOURxONExTHREEyWO",
    "nELEGRAPH LINE FEED SEPARATOR SYMBOLwSYMBOL FOR APRILbiUGUSTbhDAY EIGHTbqEENbmLEVENblFIFTEEN",
    "bnVEbmOURbpTEENblNINEbpTEENblONEblSEVENbqTEENbmIXboTEENblTENbmHIRTEENbqYbr-ONEbnREEbmWELVE",
    "boNTYbr-EIGHTbsFIVEbtOURbsNINEbsONEbsSEVENbtIXbsTHREEbtWObnObiECEMBERbhFEBRUARYbhHOUR EIGHT",
    "brEENbnLEVENbmFIFTEENboVEbnOURbqTEENbmNINEbqTEENbmONEbmSEVENbrTEENbnIXbpTEENbmTENbnHIRTEEN",
    "boREEbnWELVEbpNTYbs-FOURbtONEbtTHREEbuWOboObmZERObhJANUARYbiULYbjNEbhMARCHbjYbhNOVEMBER",
    "bhOCTOBERbhSEPTEMBERmVARIATION INDICATORbMAGE OFi OR APPROXIMATELY EQUAL TOcP",
    "dERIAL ARAMAIC LETTER ALEPHzYINyBETHyDALETHyGIMELyHEbaTHyKAPHyLAMEDHyMEMyNUNyPEyQOPHyRESH",
    "ySADHEbaMEKHzHINyTAWzETHyWAWyYODHyZAYINrNUMBER ONEbb HUNDREDbcTHOUSANDyTENbb THOUSANDzHREE",
    "zWENTYbaOrSECTION SIGNbNBOX TRAYcCOMING ENVELOPEfPLETE INFINITYdREASE FONT SIZE SYMBOLiS AS",
    "fMENTcDdEXf POINTING AT THE VIEWERdIAN RUPEE SIGNeC SIYAQ ALTERNATE LAKH MARK",
    "mFRACTION ONE HALFzQUARTERvTHREE QUARTERSmLAKH MARKmNUMBER ALTERNATE ONEbdTEN THOUSANDbeWO",
    "tEIGHTy HUNDREDzTHOUSANDyYz THOUSANDtFIFTYy THOUSANDvVEx HUNDREDyTHOUSANDuORTYy THOUSANDvUR",
    "x HUNDREDyTHOUSANDtKARORyANtLAKHxANtNINEx HUNDREDyTHOUSANDxTYz THOUSANDtONEw HUNDRED",
    "xTHOUSANDtPREFIXED EIGHTbcFIVEbdOURbcNINEbcONEbcSEVENbdIXbcTHREEbdWOtSEVENy HUNDREDzTHOUSAND",
    "yTYba THOUSANDuIXw HUNDREDxTHOUSANDwTYy THOUSANDtTENw THOUSANDuHIRTYz THOUSANDvREEy HUNDRED",
    "zTHOUSANDuWENTYz THOUSANDvOw HUNDREDxTHOUSANDmPLACEHOLDERmRUPEE MARKcFINITY",
    "i NEGATED WITH VERTICAL BARdORMATION DESK PERSONmSEPARATOR FOURwONEwTHREExWOnOURCE",
    "cHIBIT ARABIC FORM SHAPINGiSYMMETRIC SWAPPINGcPUT SYMBOL FOR LATIN CAPITAL LETTERSxLETTERS",
    "xSMALL LETTERSrNUMBERSrSYMBOLScSCRIPTIONAL PAHLAVI LETTER ALEPHbdBETHbdDALETHbdGIMELbdHEbfTH",
    "bdKAPHbdLAMEDHbdMEM-QOPHbdNUNbdPEbdSADHEbfMEKHbeHINbdTAWbeETHbdWAW-AYIN-RESHbdYODHbdZAYIN",
    "wNUMBER FOURbdONEbg HUNDREDbhTHOUSANDbdTENbeHREEbeWENTYbfOqRTHIAN LETTER ALEPHbfYINbeBETH",
    "beDALETHbeGIMELbeHEbgTHbeKAPHbeLAMEDHbeMEMbeNUNbePEbeQOPHbeRESHbeSADHEbgMEKHbfHINbeTAWbfETH",
    "beWAWbeYODHbeZAYINxNUMBER FOURbeONEbh HUNDREDbiTHOUSANDbeTENbfHREEbfWENTYbgOdERTION SYMBOL",
    "cTEGRALi AROUND A POINT OPERATORkVERAGE WITH SLASHjEXTENSIONjWITH DOUBLE STROKEoINTERSECTION",
    "oLEFTWARDS ARROW WITH HOOKoOVERBARoTIMES SIGNoUNDERBARqIONeRCALATEfIOR PRODUCT",
    "fLINEAR ANNOTATION ANCHORxSEPARATORxTERMINATORgOCKED FEMALE AND MALE SIGNfROBANGfSECTION",
    "m ABOVE BAR ABOVE UNIONtUNIONnBESIDE AND JOINED WITH INTERSECTIONnWITH DOTsLOGICAL AND",
    "sOVERBARcVERSE BULLETiCHECK MARKnER BOARD FILLiDOWNWARDS ARROW WITH TIP LEFTWARDS",
    "iMEDIUM SHADEiWHITE CIRCLEfTED EXCLAMATION MARKjINTERROBANGjLAZY SkOW KAVYKA",
    "t WITH KAVYKA ABOVEjOHM SIGNjPENTAGRAMjQUESTION MARKjUNDERTIEdISIBLE PLUSkSEPARATORkTIMES",
    "bZAKAYA LANTERN"]

/-- The names that start with J. -/
def rowsJ : List String :=
  ["aJACK-O-LANTERNcPANESE BANK SYMBOLjCASTLEjDOLLSjGOBLINjINDUSTRIAL STANDARD SYMBOLjOGRE",
    "jPOST OFFICEjSYMBOL FOR BEGINNERcRcVANESE CONSONANT SIGN CAKRAyKERETyPENGKALjDIGIT EIGHT",
    "pFIVEqOURpNINEpONEpSEVENqIXpTHREEqWOpZEROjLEFT RERENGGANlTTER ArIqBAs MURDAqCAs MURDAqDA",
    "s MAHAPRANArDAt MAHAPRANAqEqGAs MURDAqHAqIr KAWIrIqJAs MAHAPRANAqKAs MURDAtSASAKqLAqMAqNA",
    "s MURDArGAt LELETz RASWADIrYAt MURDAqOqPAs CEREKtMURDAqRAs AGUNGqSAs MAHAPRANAuURDAqTA",
    "s MURDArTAt MAHAPRANAqUqWAqYAjPADA ADEGs ADEGpNDAPoISEN-ISENoLINGSApUHURqNGSIoMADYAoPANGKAT",
    "pISELEHoTIRTA TUMETESoWINDUlNGKONnRANGKEPjRIGHT RERENGGANjSIGN CECAKt TELUoLAYARoPANYANGGA",
    "oWIGNYANjTURNED PADA PISELEHjVOWEL SIGN DIRGA MUREuPEPETuSUKUy MENDUTuTALINGwRUNGvOLONGuWULU",
    "y MELIKbEANSbIGSAW PUZZLE PIECEbOINcYSTICKbUGGLINGcNOcPITER"]

end NetPlan.Text.CharacterName
