/-!
# The names of characters

The names of the characters of Unicode 14 with the aliases of names, but for the characters that are
named by their code points or by their syllables.

The names stand in the order of the code points, the aliases behind them in their own order. Each
one starts with a letter that says how much it shares with the name before: À for nothing, Á for one
character, and so on from code point C0 on. What follows is the rest of the name, where small letters
abbreviate some words (`nameWords`). In front of the letter an equals sign and hexadecimal digits
give the code point, unless it is the next one. Line breaks say nothing.
-/

namespace ArchModel.Text

/-- What the small letters in the table stand for, in the order of the alphabet. -/
def nameWords : List String :=
  [" WITH ", " LETTER ", "CAPITAL", "SMALL", " ISOLATED FORM", " AND ", "ARROW", "FINAL FORM",
    "INITIAL FORM", "RIGHTWARDS ", "SIGN", " ABOVE", "RIGHT", "DOUBLE ", " BELOW", "LEFT ",
    "TRIANGLE-HEADED ", "LEFTWARDS ", " TIMES ", "VERTICAL", "WHITE ", "LETTER ", "STROKE",
    "BLACK ", "VOWEL ", "SYMBOL"]

/-- The names. -/
def charNames : String :=
  "=20ÀSPACEÀEXCLAMATION MARKÀQUOTATION MARKÀNUMBER kÀDOLLAR kÀPERCENT kÀAMPERSANDÁPOSTROPHE
ÀpPARENTHESISÀm PARENTHESISÀASTERISKÀPLUS kÀCOMMAÀHYPHEN-MINUSÀFULL STOPÀSOLIDUSÀDIGIT ZEROÆONE
ÆTWOÇHREEÆFOURÇIVEÆSIXÇEVENÆEIGHTÆNINEÀCOLONÀSEMICOLONÀLESS-THAN kÀEQUALS kÀGREATER-THAN k
ÀQUESTION MARKÀCOMMERCIAL ATÀLATIN cbAÕBÕCÕDÕEÕFÕGÕHÕIÕJÕKÕLÕMÕNÕOÕPÕQÕRÕSÕTÕUÕVÕWÕXÕYÕZ
ÁEFT SQUARE BRACKETÀREVERSE SOLIDUSÁIGHT SQUARE BRACKETÀCIRCUMFLEX ACCENTÀLOW LINEÀGRAVE ACCENT
ÀLATIN dbAÓBÓCÓDÓEÓFÓGÓHÓIÓJÓKÓLÓMÓNÓOÓPÓQÓRÓSÓTÓUÓVÓWÓXÓYÓZÁEFT CURLY BRACKETÀt LINE
Àm CURLY BRACKETÀTILDE=a0ÀNO-BREAK SPACEÀINVERTED EXCLAMATION MARKÀCENT kÀPOUND kÀCURRENCY kÀYEN k
ÀBROKEN BARÀSECTION kÀDIAERESISÀCOPYm kÀFEMININE ORDINAL INDICATOR
ÀLEFT-POINTING nANGLE QUOTATION MARKÀNOT kÀSOFT HYPHENÀREGISTERED kÀMACRONÀDEGREE kÀPLUS-MINUS k
ÀSUPERSCRIPT TWOÍHREEÀACUTE ACCENTÀMICRO kÀPILCROW kÀMIDDLE DOTÀCEDILLAÀSUPERSCRIPT ONE
ÀMASCULINE ORDINAL INDICATORÀm-POINTING nANGLE QUOTATION MARKÀVULGAR FRACTION ONE QUARTERÔHALF
ÐTHREE QUARTERSÀINVERTED QUESTION MARKÀLATIN cbAaGRAVEÜACUTEÜCIRCUMFLEXÜTILDEÜDIAERESISÜRINGlÖE
ÕCaCEDILLAÕEaGRAVEÜACUTEÜCIRCUMFLEXÜDIAERESISÕIaGRAVEÜACUTEÜCIRCUMFLEXÜDIAERESISÕETHÕNaTILDE
ÕOaGRAVEÜACUTEÜCIRCUMFLEXÜTILDEÜDIAERESISÀMULTIPLICATION kÀLATIN cbOawÕUaGRAVEÜACUTEÜCIRCUMFLEX
ÜDIAERESISÕYaACUTEÕTHORNÆdbSHARP SÓAaGRAVEÚACUTEÚCIRCUMFLEXÚTILDEÚDIAERESISÚRINGlÔEÓCaCEDILLA
ÓEaGRAVEÚACUTEÚCIRCUMFLEXÚDIAERESISÓIaGRAVEÚACUTEÚCIRCUMFLEXÚDIAERESISÓETHÓNaTILDEÓOaGRAVEÚACUTE
ÚCIRCUMFLEXÚTILDEÚDIAERESISÀDIVISION kÀLATIN dbOawÓUaGRAVEÚACUTEÚCIRCUMFLEXÚDIAERESISÓYaACUTE
ÓTHORNÓYaDIAERESISÆcbAaMACRONÆdbAaMACRONÆcbAaBREVEÆdbAaBREVEÆcbAaOGONEKÆdbAaOGONEKÆcbCaACUTE
ÆdbCaACUTEÆcbCaCIRCUMFLEXÆdbCaCIRCUMFLEXÆcbCaDOTlÆdbCaDOTlÆcbCaCARONÆdbCaCARONÆcbDaCARONÆdbDaCARON
ÆcbDawÆdbDawÆcbEaMACRONÆdbEaMACRONÆcbEaBREVEÆdbEaBREVEÆcbEaDOTlÆdbEaDOTlÆcbEaOGONEKÆdbEaOGONEK
ÆcbEaCARONÆdbEaCARONÆcbGaCIRCUMFLEXÆdbGaCIRCUMFLEXÆcbGaBREVEÆdbGaBREVEÆcbGaDOTlÆdbGaDOTl
ÆcbGaCEDILLAÆdbGaCEDILLAÆcbHaCIRCUMFLEXÆdbHaCIRCUMFLEXÆcbHawÆdbHawÆcbIaTILDEÆdbIaTILDEÆcbIaMACRON
ÆdbIaMACRONÆcbIaBREVEÆdbIaBREVEÆcbIaOGONEKÆdbIaOGONEKÆcbIaDOTlÆdbDOTLESS IÆc LIGATURE IJ
Æd LIGATURE IJÆcbJaCIRCUMFLEXÆdbJaCIRCUMFLEXÆcbKaCEDILLAÆdbKaCEDILLAÔRAÆcbLaACUTEÆdbLaACUTE
ÆcbLaCEDILLAÆdbLaCEDILLAÆcbLaCARONÆdbLaCARONÆcbLaMIDDLE DOTÆdbLaMIDDLE DOTÆcbLawÆdbLawÆcbNaACUTE
ÆdbNaACUTEÆcbNaCEDILLAÆdbNaCEDILLAÆcbNaCARONÆdbNaCARONÕPRECEDED BY APOSTROPHEÆcbENGÆdbENG
ÆcbOaMACRONÆdbOaMACRONÆcbOaBREVEÆdbOaBREVEÆcbOanACUTEÆdbOanACUTEÆc LIGATURE OEÆd LIGATURE OE
ÆcbRaACUTEÆdbRaACUTEÆcbRaCEDILLAÆdbRaCEDILLAÆcbRaCARONÆdbRaCARONÆcbSaACUTEÆdbSaACUTE
ÆcbSaCIRCUMFLEXÆdbSaCIRCUMFLEXÆcbSaCEDILLAÆdbSaCEDILLAÆcbSaCARONÆdbSaCARONÆcbTaCEDILLAÆdbTaCEDILLA
ÆcbTaCARONÆdbTaCARONÆcbTawÆdbTawÆcbUaTILDEÆdbUaTILDEÆcbUaMACRONÆdbUaMACRONÆcbUaBREVEÆdbUaBREVE
ÆcbUaRINGlÆdbUaRINGlÆcbUanACUTEÆdbUanACUTEÆcbUaOGONEKÆdbUaOGONEKÆcbWaCIRCUMFLEXÆdbWaCIRCUMFLEX
ÆcbYaCIRCUMFLEXÆdbYaCIRCUMFLEXÆcbYaDIAERESISÕZaACUTEÆdbZaACUTEÆcbZaDOTlÆdbZaDOTlÆcbZaCARON
ÆdbZaCARONÓLONG SÓBawÆcbBaHOOKÜTOPBARÆdbBaTOPBARÆcbTONE SIXÆdbTONE SIXÆcbOPEN OÕCaHOOKÆdbCaHOOK
ÆcbAFRICAN DÕDaHOOKÜTOPBARÆdbDaTOPBARÓTURNED DELTAÆcbREVERSED EÕSCHWAÕOPEN EÕFaHOOKÆdbFaHOOK
ÆcbGaHOOKÖAMMAÆdbHVÆcbIOTAÖawÕKaHOOKÆdbKaHOOKÓLaBARÔAMBDAawÆcbTURNED MÕNapHOOKÆdbNaLONG m LEG
ÆcbOaMIDDLE TILDEÜHORNÆdbOaHORNÆcbOIÆdbOIÆcbPaHOOKÆdbPaHOOKÆvYRÆcbTONE TWOÆdbTONE TWOÆcbESH
ÆvREVERSED ESH LOOPÆdbTaPALATAL HOOKÆcbTaHOOKÆdbTaHOOKÆcbTaRETROFLEX HOOKÕUaHORNÆdbUaHORN
ÆcbUPSILONÕVaHOOKÕYaHOOKÆdbYaHOOKÆcbZawÆdbZawÆcbEZHØ REVERSEDÆdbEZH REVERSED×WITH TAILÆvTWOaw
ÆcbTONE FIVEÆdbTONE FIVEÆvINVERTED GLOTTAL STOPawÍWYNNÍDENTAL CLICKÍLATERAL CLICKÍALVEOLAR CLICK
ÍRETROFLEX CLICKÆcbDZaCARONÖadbZaCARONÆdbDZaCARONÆcbLJÖadbJÆdbLJÆcbNJÖadbJÆdbNJÆcbAaCARON
ÆdbAaCARONÆcbIaCARONÆdbIaCARONÆcbOaCARONÆdbOaCARONÆcbUaCARONÆdbUaCARONÆcbUaDIAERESISfMACRON
ÆdbUaDIAERESISfMACRONÆcbUaDIAERESISfACUTEÆdbUaDIAERESISfACUTEÆcbUaDIAERESISfCARON
ÆdbUaDIAERESISfCARONÆcbUaDIAERESISfGRAVEÆdbUaDIAERESISfGRAVEÓTURNED EÆcbAaDIAERESISfMACRON
ÆdbAaDIAERESISfMACRONÆcbAaDOTlfMACRONÆdbAaDOTlfMACRONÆcbAEaMACRONÆdbAEaMACRONÆcbGawÆdbGaw
ÆcbGaCARONÆdbGaCARONÆcbKaCARONÆdbKaCARONÆcbOaOGONEKÆdbOaOGONEKÆcbOaOGONEKfMACRONÆdbOaOGONEKfMACRON
ÆcbEZHaCARONÆdbEZHaCARONÓJaCARONÆcbDZÖadbZÆdbDZÆcbGaACUTEÆdbGaACUTEÆcbHWAIRÕWYNNÕNaGRAVEÆdbNaGRAVE
ÆcbAaRINGlfACUTEÆdbAaRINGlfACUTEÆcbAEaACUTEÆdbAEaACUTEÆcbOawfACUTEÆdbOawfACUTEÆcbAanGRAVE
ÆdbAanGRAVEÆcbAaINVERTED BREVEÆdbAaINVERTED BREVEÆcbEanGRAVEÆdbEanGRAVEÆcbEaINVERTED BREVE
ÆdbEaINVERTED BREVEÆcbIanGRAVEÆdbIanGRAVEÆcbIaINVERTED BREVEÆdbIaINVERTED BREVEÆcbOanGRAVE
ÆdbOanGRAVEÆcbOaINVERTED BREVEÆdbOaINVERTED BREVEÆcbRanGRAVEÆdbRanGRAVEÆcbRaINVERTED BREVE
ÆdbRaINVERTED BREVEÆcbUanGRAVEÆdbUanGRAVEÆcbUaINVERTED BREVEÆdbUaINVERTED BREVEÆcbSaCOMMAo
ÆdbSaCOMMAoÆcbTaCOMMAoÆdbTaCOMMAoÆcbYOGHÆdbYOGHÆcbHaCARONÆdbHaCARONÆcbNaLONG m LEGÆdbDaCURLÆcbOU
ÆdbOUÆcbZaHOOKÆdbZaHOOKÆcbAaDOTlÆdbAaDOTlÆcbEaCEDILLAÆdbEaCEDILLAÆcbOaDIAERESISfMACRON
ÆdbOaDIAERESISfMACRONÆcbOaTILDEfMACRONÆdbOaTILDEfMACRONÆcbOaDOTlÆdbOaDOTlÆcbOaDOTlfMACRON
ÆdbOaDOTlfMACRONÆcbYaMACRONÆdbYaMACRONÓLaCURLÓNaCURLÓTaCURLÓDOTLESS JÔB DIGRAPHÓQP DIGRAPHÆcbAaw
ÕCawÆdbCawÆcbLaBARÕTaDIAGONAL wÆdbSaSWASH TAILÓZaSWASH TAILÆcbGLOTTAL STOPÆdbGLOTTAL STOPÆcbBaw
ÕU BARÕTURNED VÕEawÆdbEawÆcbJawÆdbJawÆcbd QaHOOK TAILÆdbQaHOOK TAILÆcbRawÆdbRawÆcbYawÆdbYaw
ÓTURNED AÓALPHAÓTURNED ALPHAÓBaHOOKÓOPEN OÓCaCURLÓDaTAILÚHOOKÓREVERSED EÓSCHWAØaHOOKÓOPEN E
ÓREVERSED OPEN EâaHOOKÓCLOSED REVERSED OPEN EÓDOTLESS JawÓGaHOOKÓSCRIPT GÆvd c GÆdbGAMMAÓRAMS HORN
ÓTURNED HÓHaHOOKÔENGaHOOKÓIawÔOTAÆvd c IÆdbLaMIDDLE TILDEÚBELTÚRETROFLEX HOOKÔEZHÓTURNED M
ÛaLONG LEGÓMaHOOKÓNapHOOKÚRETROFLEX HOOKÆvd c NÆdbBARRED OÆvd c OEÆdbCLOSED OMEGAÓPHIÓTURNED R
ÛaLONG LEGáHOOKÓRaLONG LEGÚTAILÚFISHHOOKÔEVERSED RaFISHHOOKÆvd c RÛINVERTED RÆdbSaHOOKÓESH
ÓDOTLESS JawfHOOKÓSQUAT REVERSED ESHÓESHaCURLÓTURNED TÔaRETROFLEX HOOKÓU BARÔPSILONÓVaHOOK
ÓTURNED VÚWÚYÆvd c YÆdbZaRETROFLEX HOOKÚCURLÓEZHÖaCURLÆvGLOTTAL STOPÍPHARYNGEAL VOICED FRICATIVE
ÍINVERTED GLOTTAL STOPÍSTRETCHED CÍBILABIAL CLICKÍd c BÆdbCLOSED OPEN EÆvd c GaHOOKÛH
ÆdbJaCROSSED-TAILÓTURNED KÆvd c LÆdbQaHOOKÆvGLOTTAL STOPawÍREVERSED GLOTTAL STOPawÆdbDZ DIGRAPH
ÔEZH DIGRAPHÔZ DIGRAPHaCURLÓTS DIGRAPHÔESH DIGRAPHÔC DIGRAPHaCURLÓFENG DIGRAPHÓLS DIGRAPH
ÔZ DIGRAPHÆvBILABIAL PERCUSSIVEÏDENTAL PERCUSSIVEÆdbTURNED HaFISHHOOKéfTAILÀMODIFIERbd H×aHOOKÖJÖR
ÖTURNED RÞaHOOKÖc INVERTED RÖWÖYÐPRIMEÐnPRIMEÐTURNED COMMAÐAPOSTROPHEÐREVERSED COMMA
ÑIGHT HALF RINGÐpHALF RINGÐGLOTTAL STOPÐREVERSED GLOTTAL STOPÐpgHEADÐm gHEADÐUP gHEADÐDOWN gHEAD
ÐCIRCUMFLEX ACCENTÀCARONÀMODIFIERbt LINEÐMACRONÐACUTE ACCENTÐGRAVE ACCENTÐLOW t LINEÔMACRON
ÔGRAVE ACCENTÔACUTE ACCENTÐTRIANGULAR COLONÐHALF TRIANGULAR COLONÐCENTRED m HALF RINGØpHALF RING
ÐUP TACKÐDOWN TACKÐPLUS kÐMINUS kÀBREVEÀDOTlÀRINGlÀOGONEKÀd TILDEÀnACUTE ACCENT
ÀMODIFIERbRHOTIC HOOKÐCROSS ACCENTÐd GAMMAÖLÖSÖXÖREVERSED GLOTTAL STOPÐEXTRA-HIGH TONE BAR
ÐHIGH TONE BARÐMID TONE BARÐLOW TONE BARÐEXTRA-LOW TONE BARÐYIN DEPARTING TONE MARK
ÑANG DEPARTING TONE MARKÐVOICINGÐUNASPIRATEDÐnAPOSTROPHEÐLOW DOWN gHEADÔUP gHEADÔpgHEADÔm gHEADÖNG
ÐMIDDLE GRAVE ACCENT×nGRAVE ACCENTÞACUTE ACCENTÐLOW TILDEÐRAISED COLONÐBEGIN HIGH TONE
ÐEND HIGH TONEÐBEGIN LOW TONEÐEND LOW TONEÐSHELFÐOPEN SHELFÐLOW pgÀCOMBINING GRAVE ACCENT
ÊACUTE ACCENTÊCIRCUMFLEX ACCENTÊTILDEÊMACRONÊOVERLINEÊBREVEÊDOTlËIAERESISÊHOOKlÊRINGl
ÊnACUTE ACCENTÊCARONÊt LINElÊnt LINElÑGRAVE ACCENTÊCANDRABINDUÊINVERTED BREVEÊTURNED COMMAlÊCOMMAl
ÊREVERSED COMMAlÊCOMMAl mÊGRAVE ACCENToÊACUTE ACCENToÊpTACKoÊm TACKoÊpANGLElÊHORNÊpHALF RINGo
ÊUP TACKoÊDOWN TACKoÊPLUS koÊMINUS koÊPALATALIZED HOOKoÊRETROFLEX HOOKoÊDOToËIAERESISoÊRINGo
ÊCOMMAoËEDILLAÊOGONEKÊt LINEoÊBRIDGEoÊINVERTED nARCHoÊCARONoËIRCUMFLEX ACCENToÊBREVEo
ÊINVERTED BREVEoÊTILDEoÊMACRONoÊLOW LINEÊnLOW LINEÊTILDE OVERLAYÊSHORT w OVERLAYÊLONG w OVERLAY
ÊSHORT SOLIDUS OVERLAYÊLONG SOLIDUS OVERLAYÊm HALF RINGoÊINVERTED BRIDGEoÊSQUAREoËEAGULLoÊXl
Êt TILDEÊnOVERLINEÊGRAVE TONE MARKÊACUTE TONE MARKÊGREEK PERISPOMENIÐKORONISÐDIALYTIKA TONOS
ÐYPOGEGRAMMENIÊBRIDGElÊEQUALS koÊnt LINEoÊpANGLEoÊNOT TILDElÊHOMOTHETIClÊALMOST EQUAL TOlÊpm go
ÊUPWARDS goÊGRAPHEME JOINERÊm gHEADlÊpHALF RINGlÊFERMATAÊXoÊpgHEADoÊm gHEADoÚAND UP gHEADo
ÐHALF RINGlÊDOTl mÊASTERISKoÊnRINGoÊZIGZAGlÊnBREVEoÖÑMACRON×oÑTILDEÑINVERTED BREVEÑjgoÊLATIN dbAÝE
ÝIÝOÝUÝCÝDÝHÝMÝRÝTÝVÝXÀGREEK cbHETAÆdbHETAÆcbARCHAIC SAMPIÆdbARCHAIC SAMPIÆNUMERAL k
ÆLOWER NUMERAL kÆcbPAMPHYLIAN DIGAMMAÆdbPAMPHYLIAN DIGAMMA=37aÆYPOGEGRAMMENI
Æd REVERSED LUNATE SIGMA zÌDOTTED LUNATE SIGMA zÌREVERSED DOTTED LUNATE SIGMA zÆQUESTION MARK
ÆcbYOT=384ÆTONOSÆDIALYTIKA TONOSÆcbALPHAaTONOSÆANO TELEIAÆcbEPSILONaTONOSÖTAaTONOSÕIOTAaTONOS
=38cÕOMICRONaTONOS=38eÕUPSILONaTONOSÕOMEGAaTONOSÆdbIOTAaDIALYTIKAfTONOSÆcbALPHAÕBETAÕGAMMAÕDELTA
ÕEPSILONÕZETAÕETAÕTHETAÕIOTAÕKAPPAÕLAMDAÕMUÕNUÕXIÕOMICRONÕPIÕRHO=3a3ÕSIGMAÕTAUÕUPSILONÕPHIÕCHIÕPSI
ÕOMEGAÕIOTAaDIALYTIKAÕUPSILONaDIALYTIKAÆdbALPHAaTONOSÓEPSILONaTONOSÔTAaTONOSÓIOTAaTONOS
ÓUPSILONaDIALYTIKAfTONOSÓALPHAÓBETAÓGAMMAÓDELTAÓEPSILONÓZETAÓETAÓTHETAÓIOTAÓKAPPAÓLAMDAÓMUÓNUÓXI
ÓOMICRONÓPIÓRHOÓFINAL SIGMAÓSIGMAÓTAUÓUPSILONÓPHIÓCHIÓPSIÓOMEGAÓIOTAaDIALYTIKAÓUPSILONaDIALYTIKA
ÓOMICRONaTONOSÓUPSILONaTONOSÓOMEGAaTONOSÆc KAI zÆBETA zÆTHETA zÆUPSILONaHOOK zÓACUTEfHOOK z
ÓDIAERESISfHOOK zÆPHI zÇI zÆKAI zÆvARCHAIC KOPPAÆdbARCHAIC KOPPAÆvSTIGMAÆdbSTIGMAÆvDIGAMMA
ÆdbDIGAMMAÆvKOPPAÆdbKOPPAÆvSAMPIÆdbSAMPIÀCOPTIC cbSHEIÇdbSHEIÇcbFEIÇdbFEIÇcbKHEIÇdbKHEIÇcbHORI
ÇdbHORIÇcbGANGIAÇdbGANGIAÇcbSHIMAÇdbSHIMAÇcbDEIÇdbDEIÀGREEK KAPPA zÆRHO zÆLUNATE SIGMA zÇETTER YOT
Æc THETA zÆLUNATE EPSILON zÆREVERSED LUNATE EPSILON zÆcbSHOÆdbSHOÆc LUNATE SIGMA zÏETTER SANÆdbSAN
ÆRHOaw zÆc REVERSED LUNATE SIGMA zÎDOTTED LUNATE SIGMA zÎREVERSED DOTTED LUNATE SIGMA z
ÀCYRILLIC cbIEaGRAVEÙOØDJEØGJEØUKRAINIAN IEØDZEØBYELORUSSIAN-UKRAINIAN IØYIØJEØLJEØNJEØTSHEØKJE
ØIaGRAVEØSHORT UØDZHEØAØBEØVEØGHEØDEØIEØZHEÙEØIØSHORT IØKAØELÙMÙNØOØPEØERÙSØTEØUØEFØHAØTSEØCHEØSHA
ÚCHAØHARD kØYERUØSOFT kØEØYUÙAÉdbAÖBEÖVEÖGHEÖDEÖIEÖZHE×EÖIÖSHORT IÖKAÖEL×M×NÖOÖPEÖER×SÖTEÖUÖEFÖHA
ÖTSEÖCHEÖSHAØCHAÖHARD kÖYERUÖSOFT kÖEÖYU×AÖIEaGRAVE×OÖDJEÖGJEÖUKRAINIAN IEÖDZE
ÖBYELORUSSIAN-UKRAINIAN IÖYIÖJEÖLJEÖNJEÖTSHEÖKJEÖIaGRAVEÖSHORT UÖDZHEÉcbOMEGAÉdbOMEGAÉcbYATÉdbYAT
ÉcbIOTIFIED EÉdbIOTIFIED EÉcbLITTLE YUSÉdbLITTLE YUSÉcbIOTIFIED LITTLE YUSÉdbIOTIFIED LITTLE YUS
ÉcbBIG YUSÉdbBIG YUSÉcbIOTIFIED BIG YUSÉdbIOTIFIED BIG YUSÉcbKSIÉdbKSIÉcbPSIÉdbPSIÉcbFITAÉdbFITA
ÉcbIZHITSAÉdbIZHITSAÉcbIZHITSAanGRAVE ACCENTÉdbIZHITSAanGRAVE ACCENTÉcbUKÉdbUKÉcbROUND OMEGA
ÉdbROUND OMEGAÉcbOMEGAaTITLOÉdbOMEGAaTITLOÉcbOTÉdbOTÉcbKOPPAÉdbKOPPAÉTHOUSANDS k
ÁOMBINING CYRILLIC TITLOÓPALATALIZATIONÓDASIA PNEUMATAÓPSILI PNEUMATAÔOKRYTIEÓHUNDRED THOUSANDS k
ÓMILLIONS kÁYRILLIC cbSHORT IaTAILÉdbSHORT IaTAILÉcbSEMISOFT kÉdbSEMISOFT kÉcbERaTICKÉdbERaTICK
ÉcbGHEaUPTURNÉdbGHEaUPTURNÉcbGHEawÉdbGHEawÉcbGHEaMIDDLE HOOKÉdbGHEaMIDDLE HOOKÉcbZHEaDESCENDER
ÉdbZHEaDESCENDERÉcbZEaDESCENDERÉdbZEaDESCENDERÉcbKAaDESCENDERÉdbKAaDESCENDERÉcbKAat wÉdbKAat w
ÉcbKAawÉdbKAawÉcbBASHKIR KAÉdbBASHKIR KAÉcbENaDESCENDERÉdbENaDESCENDERÉc LIGATURE EN GHE
Éd LIGATURE EN GHEÉcbPEaMIDDLE HOOKÉdbPEaMIDDLE HOOKÉcbABKHASIAN HAÉdbABKHASIAN HAÉcbESaDESCENDER
ÉdbESaDESCENDERÉcbTEaDESCENDERÉdbTEaDESCENDERÉcbSTRAIGHT UÉdbSTRAIGHT UÉcbSTRAIGHT Uaw
ÉdbSTRAIGHT UawÉcbHAaDESCENDERÉdbHAaDESCENDERÉc LIGATURE TE TSEÉd LIGATURE TE TSEÉcbCHEaDESCENDER
ÉdbCHEaDESCENDERÉcbCHEat wÉdbCHEat wÉcbSHHAÉdbSHHAÉcbABKHASIAN CHEÉdbABKHASIAN CHE
ÉcbABKHASIAN CHEaDESCENDERÉdbABKHASIAN CHEaDESCENDERÉvPALOCHKAÉcbZHEaBREVEÉdbZHEaBREVEÉcbKAaHOOK
ÉdbKAaHOOKÉcbELaTAILÉdbELaTAILÉcbENaHOOKÉdbENaHOOKÉcbENaTAILÉdbENaTAILÉcbKHAKASSIAN CHE
ÉdbKHAKASSIAN CHEÉcbEMaTAILÉdbEMaTAILÖPALOCHKAÉcbAaBREVEÉdbAaBREVEÉcbAaDIAERESISÉdbAaDIAERESIS
Éc LIGATURE A IEÉd LIGATURE A IEÉcbIEaBREVEÉdbIEaBREVEÉcbSCHWAÉdbSCHWAÉcbSCHWAaDIAERESIS
ÉdbSCHWAaDIAERESISÉcbZHEaDIAERESISÉdbZHEaDIAERESISÉcbZEaDIAERESISÉdbZEaDIAERESISÉcbABKHASIAN DZE
ÉdbABKHASIAN DZEÉcbIaMACRONÉdbIaMACRONÉcbIaDIAERESISÉdbIaDIAERESISÉcbOaDIAERESISÉdbOaDIAERESIS
ÉcbBARRED OÉdbBARRED OÉcbBARRED OaDIAERESISÉdbBARRED OaDIAERESISÉcbEaDIAERESISÉdbEaDIAERESIS
ÉcbUaMACRONÉdbUaMACRONÉcbUaDIAERESISÉdbUaDIAERESISÉcbUanACUTEÉdbUanACUTEÉcbCHEaDIAERESIS
ÉdbCHEaDIAERESISÉcbGHEaDESCENDERÉdbGHEaDESCENDERÉcbYERUaDIAERESISÉdbYERUaDIAERESISÉcbGHEawfHOOK
ÉdbGHEawfHOOKÉcbHAaHOOKÉdbHAaHOOKÉcbHAawÉdbHAawÉcbKOMI DEÉdbKOMI DEÉcbKOMI DJEÉdbKOMI DJE
ÉcbKOMI ZJEÉdbKOMI ZJEÉcbKOMI DZJEÉdbKOMI DZJEÉcbKOMI LJEÉdbKOMI LJEÉcbKOMI NJEÉdbKOMI NJE
ÉcbKOMI SJEÉdbKOMI SJEÉcbKOMI TJEÉdbKOMI TJEÉcbREVERSED ZEÉdbREVERSED ZEÉcbELaHOOKÉdbELaHOOKÉcbLHA
ÉdbLHAÉcbRHAÉdbRHAÉcbYAEÉdbYAEÉcbQAÉdbQAÉcbWEÉdbWEÉcbALEUT KAÉdbALEUT KAÉcbELaMIDDLE HOOK
ÉdbELaMIDDLE HOOKÉcbENaMIDDLE HOOKÉdbENaMIDDLE HOOKÉcbPEaDESCENDERÉdbPEaDESCENDERÉcbSHHAaDESCENDER
ÉdbSHHAaDESCENDERÉcbENapHOOKÉdbENapHOOKÉcbDZZHEÉdbDZZHEÉcbDCHEÉdbDCHEÉcbELaDESCENDER
ÉdbELaDESCENDER=531ÀARMENIAN cbAYBØBENØGIMØDAØECHØZAØEHÙTØTOØZHEØINIØLIWNØXEHØCAØKENØHOØJAØGHAD
ØCHEHØMENØYIØNOWØSHAØVOØCHAØPEHØJHEHØRAØSEHØVEWØTIWNØREHØCOØYIWNØPIWRØKEHØOHØFEH
=559ÉMODIFIERbpHALF RINGÉAPOSTROPHEÉEMPHASIS MARKÊXCLAMATION MARKÉCOMMAÉQUESTION MARK
ÉABBREVIATION MARKÉdbTURNED AYBÖAYBÖBENÖGIMÖDAÖECHÖZAÖEH×TÖTOÖZHEÖINIÖLIWNÖXEHÖCAÖKENÖHOÖJAÖGHAD
ÖCHEHÖMENÖYIÖNOWÖSHAÖVOÖCHAÖPEHÖJHEHÖRAÖSEHÖVEWÖTIWNÖREHÖCOÖYIWNÖPIWRÖKEHÖOHÖFEHÐIGATURE ECH YIWN
ÐETTER YIawÉFULL STOPÉHYPHEN=58dÀm-FACING ARMENIAN ETERNITY kÀLEFT-FACING ARMENIAN ETERNITY k
ÀARMENIAN DRAM k=591ÀHEBREW ACCENT ETNAHTAÎSEGOLÏHALSHELETÎZAQEF QATANÔGADOLÎTIPEHAÎREVIAÎZARQA
ÎPASHTAÎYETIVÎTEVIRÎGERESHÔ MUQDAMÑSHAYIMÎQARNEY PARAÎTELISHA GEDOLAÎPAZERÎATNAH HAFUKHÎMUNAH
ÏAHAPAKHÏERKHAÔ KEFULAÎDARGAÎQADMAÎTELISHA QETANAÎYERAH BEN YOMOÎOLEÎILUYÎDEHIÎZINOR
ÇMARK MASORA CIRCLEÇPOINT SHEVAÍHATAF SEGOLÓPATAHÓQAMATSÎIRIQÍTSEREÍSEGOLÍPATAHÍQAMATSÍHOLAM
Ò HASER FOR VAVÍQUBUTSÍDAGESH OR MAPIQÍMETEGÈUNCTUATION MAQAFÈOINT RAFEÈUNCTUATION PASEQ
ÈOINT SHIN DOTÎIN DOTÈUNCTUATION SOF PASUQÇMARK UPPER DOTÌLOWER DOTÇPUNCTUATION NUN HAFUKHA
ÈOINT QAMATS QATAN=5d0ÇvALEFÎBETÎGIMELÎDALETÎHEÎVAVÎZAYINÎHETÎTETÎYODÎFINAL KAFÎKAFÎLAMED
ÎFINAL MEMÎMEMÎFINAL NUNÎNUNÎSAMEKHÎAYINÎFINAL PEÎPEÎFINAL TSADIÎTSADIÎQOFÎRESHÎSHINÎTAV
=5efÇYOD TRIANGLEÇLIGATURE YIDDISH nVAVØVAV YODØnYODÇPUNCTUATION GERESHÖSHAYIM=600ÀARABIC NUMBER k
Çk SANAHÇFOOTNOTE MARKERÇk SAFHAÎMVATÇNUMBER MARKlÆ-INDIC CUBE ROOTÍFOURTH ROOTÆ RAY
Æ-INDIC PER MILLE kÑTEN THOUSAND kÁFGHANI kÁRABIC COMMAÇDATE SEPARATORÇPOETIC VERSE kÇk MISRA
ÌSALLALLAHOU ALAYHE WASSALLAMÌALAYHE ASSALLAMÌRAHMATULLAH ALAYHEÎDI ALLAHOU ANHUÌTAKHALLUS
ÈMALL HIGH TAHÒLIGATURE ALEFaLAMaYEHÒZAINÍFATHAÍDAMMAÍKASRAÈEMICOLONÇvMARKÇEND OF TEXT MARK
ÇTRIPLE DOT PUNCTUATION MARKÇQUESTION MARKÇvKASHMIRI YEHÎHAMZAÎALEFaMADDAlØHAMZAlÎWAWaHAMZAl
ÎALEFaHAMZAoÎYEHaHAMZAlÎALEFÎBEHÎTEH MARBUTAÑÏHEHÎJEEMÎHAHÎKHAHÎDALÎTHALÎREHÎZAINÎSEENÏHEENÏADÎDAD
ÎTAHÎZAHÎAINÎGHAINÎKEHEHaTWO DOTSlÚHREE DOTSoÎFARSI YEHaINVERTED VÝTWO DOTSlÞHREE DOTSlÇTATWEEL
ÇvFEHÎQAFÎKAFÎLAMÎMEEMÎNOONÎHEHÎWAWÎALEF MAKSURAÎYEHÇFATHATANÇDAMMATANÇKASRATANÇFATHAÇDAMMAÇKASRA
ÇSHADDAÈUKUNÇMADDAHlÇHAMZAlÍBELOWÇSUBSCRIPT ALEFÇINVERTED DAMMAÇMARK NOON GHUNNAÇZWARAKAYÇyk d Vl
ÒINVERTED d VlÒDOToÇREVERSED DAMMAÇFATHAaTWO DOTSÇWAVY HAMZAoÆ-INDIC DIGIT ZEROÓONEÓTWOÔHREEÓFOUR
ÔIVEÓSIXÔEVENÓEIGHTÓNINEÆ PERCENT kÇDECIMAL SEPARATORÇTHOUSANDS SEPARATORÇFIVE POINTED STAR
ÇvDOTLESS BEHÖQAFÎSUPERSCRIPT ALEFÎALEF WASLAÔITH WAVY HAMZAlãBELOWÎHIGH HAMZAØ ALEFÙWAWÎUaHAMZAl
ÎHIGH HAMZA YEHÎTTEHÒEHÎBEEHÎTEHaRING×THREE DOTSl DOWNWARDSÎPEHÎTEHEHÎBEHEHÎHAHaHAMZAl×TWO DOTS tl
ÎNYEHÎDYEHÎHAHaTHREE DOTSlÎTCHEHÓEHÎDDALÏALaRING×DOToàfd TAHÐHALÏDAHALÏULÏALaTHREE DOTSl DOWNWARDS
×FOUR DOTSlÎRREHÏEHad V×RING×DOTo×d Vo×DOTofDOTl×TWO DOTSlÎJEHÎREHaFOUR DOTSlÎSEENaDOTofDOTl
ØTHREE DOTSoèfTHREE DOTSlÏADaTWO DOTSoØHREE DOTSlÎTAHaTHREE DOTSlÎAINaTHREE DOTSlÎDOTLESS FEH
ÎFEHaDOT MOVEDoÛBELOWÎVEHÎFEHaTHREE DOTSoÎPEHEHÎQAFaDOTl×THREE DOTSlÎKEHEHÎSWASH KAFÎKAFaRING×DOTl
ÎNGÎKAFaTHREE DOTSoÎGAFÑaRINGÎNGOEHÎGAFaTWO DOTSoÏUEHÏAFaTHREE DOTSlÎLAMad V×DOTl×THREE DOTSl
âBELOWÎNOONaDOToÓGHUNNAÎRNOONÎNOONaRINGØTHREE DOTSlÎHEH DOACHASHMEEÎTCHEHaDOTlÎHEHaYEHlÒGOAL
ÖaHAMZAlÎTEH MARBUTA GOALÎWAWaRINGÎKIRGHIZ OEÎOEÎUÎYUÎKIRGHIZ YUÎWAWaTWO DOTSlÎVEÎFARSI YEH
ÎYEHaTAIL×d VÎWAWaDOTlÎEÎYEHaTHREE DOTSoÒBARREEØaHAMZAlÇFULL STOPÇvAE
Çd HIGH LIGATURE SADaLAMaALEF MAKSURAÛQAFaLAMaALEF MAKSURAÒMEEM iÒLAM ALEFÒJEEMÒTHREE DOTSÒSEEN
ÇEND OF AYAHÇSTART OF RUB EL HIZBÈMALL HIGH ROUNDED ZEROÒUPm RECTANGULAR ZEROÒDOTLESS HEAD OF KHAH
ÒMEEMeÍLOW SEENÍHIGH MADDAÍWAWÍYEHÍHIGH YEHÒNOONÇPLACE OF SAJDAHÇEMPTY CENTRE LOW STOPÔHIGH STOP
ÇROUNDED HIGH STOPaFILLED CENTREÇd LOW MEEMÇvDALaINVERTED VÎREHaINVERTED V
ÀEXTENDED ARABIC-INDIC DIGIT ZEROÜONEÜTWOÝHREEÜFOURÝIVEÜSIXÝEVENÜEIGHTÜNINEÀARABICbSHEENaDOTo
ÎDADaDOToÎGHAINaDOToÇk SINDHI AMPERSANDÓPOSTPOSITION MENÇvHEHaINVERTED VÀSYRIAC END OF PARAGRAPH
ÇSUPRALINEAR FULL STOPÉBLINEAR FULL STOPÉPRALINEAR COLONÉBLINEAR COLONÇHORIZONTAL COLON
ÇCOLON SKEWED LEFTÔmÇSUPRALINEAR COLON SKEWED LEFTÉBLINEAR COLON SKEWED mÇCONTRACTION
ÇHARKLEAN OBELUSÐMETOBELUSÐASTERISCUS=70fÇABBREVIATION MARKÇvALAPHÎSUPERSCRIPT ALAPHÎBETHÎGAMAL
Ó GARSHUNIÎDALATHÏOTLESS DALATH RISHÎHEÎWAWÎZAINÎHETHÎTETHÒ GARSHUNIÎYUDHÒ HEÎKAPHÎLAMADHÎMIMÎNUN
ÎSEMKATHÎFINAL SEMKATHÎEÎPEÎREVERSED PEÎSADHEÎQAPHÎRISHÎSHINÎTAWÎPERSIAN BHETHÖGHAMALÖDHALATH
ÇPTHAHAlÎBELOWÎDOTTEDÇZQAPHAlÎBELOWÎDOTTEDÇRBASAlÍBELOWÇDOTTED ZLAMA HORIZONTALÔANGULARÇHBASAl
ÍBELOWÌ-ESASA DOTTEDÇESASAlÍBELOWÇRWAHAÇFEMININE DOTÇQUSHSHAYAÇRUKKAKHAÇTWO t DOTSlÙBELOW
ÈHREE DOTSlÒBELOWÇOBLIQUE LINElÔBELOWÇMUSICÇBARREKH=74dÇvSOGDIAN ZHAINÖKHAPHÖFE
ÀARABICbBEHaTHREE DOTS HORIZONTALLYo×DOTofTHREE DOTSl×THREE DOTS POINTING UPWARDSoøfTWO DOTSl
ØWO DOTSofDOTl×INVERTED d Vo×d VÎHAHaTWO DOTSlØHREE DOTS POINTING UPWARDSoÎDALaTWO DOTS tLYofd TAH
×INVERTED d VoÎREHawÎSEENaFOUR DOTSlÎAINaTWO DOTSlØHREE DOTS POINTING DOWNWARDSlØWO DOTS tLYl
ÎFEHaTWO DOTSoØHREE DOTS POINTING UPWARDSoÎKEHEHaDOTlÙTHREE DOTSläPOINTING UPWARDSoÎMEEMaDOTl
ÜBELOWÎNOONaTWO DOTSoØd TAHÞVÎLAMaBARÎREHaTWO DOTS tLYl×HAMZAlÎSEENaTWO DOTS tLYl
ÎHAHad ARABICbTAHoïAND TWO DOTSÎSEENad ARABICbTAHfTWO DOTSÎREHad ARABICbTAHfTWO DOTS
ÎHAHad ARABICbTAHlÎALEFaEXTENDED ARABIC-INDIC DIGIT TWOlõHREEl
ÎFARSI YEHaEXTENDED ARABIC-INDIC DIGIT TWOlúHREElùFOURoÎWAWaEXTENDED ARABIC-INDIC DIGIT TWOlôHREEl
ÎYEH BARREEaEXTENDED ARABIC-INDIC DIGIT TWOlûHREElÎHAHaEXTENDED ARABIC-INDIC DIGIT FOURo
ÎSEENaEXTENDED ARABIC-INDIC DIGIT FOURlØINVERTED VÎKAFaTWO DOTSlÀTHAANAbHAAÎSHAVIYANIÎNOONUÎRAA
ÎBAAÎLHAVIYANIÎKAAFUÎALIFUÎVAAVUÎMEEMUÎFAAFUÎDHAALUÎTHAAÎLAAMUÎGAAFUÏNAVIYANIÎSEENUÎDAVIYANI
ÎZAVIYANIÎTAVIYANIÎYAAÎPAVIYANIÎJAVIYANIÎCHAVIYANIÎTTAAÎHHAAÎKHAAÎTHAALUÎZAAÎSHEENUÏAADHUÎDAADHU
ÎTOÎZOÎAINUÎGHAINUÎQAAFUÎWAAVUÇABAFILIÈABAAFILIÇIBIFILIÇEEBEEFILIÇUBUFILIÇOOBOOFILIÇEBEFILI
ÈYBEYFILIÇOBOFILIÈABOAFILIÇSUKUNÇvNAA=7c0ÀNKO DIGIT ZEROÊONEÊTWOËHREEÊFOURËIVEÊSIXËEVENÊEIGHTÊNINE
ÄvAËEEËIËEËUËOOÌËDAGBASINNAËNËBAËPAËTAËJAËCHAËDAËRAÌRAËSAËGBAËFAËKAËLAËNA WOLOSOËMAËNYAÌAËHAËWAËYA
ËNYA WOLOSOËJONA JAÐCHAÐRAÄCOMBINING SHORT HIGH TONEÔLOW TONEÔRISING TONEÎLONG DESCENDING TONE
ÓHIGH TONEÓLOW TONEÓRISING TONEÎNASALIZATION MARKÎnDOTlÄHIGH TONE APOSTROPHEÄLOW TONE APOSTROPHE
Äz OO DENNENËGBAKURUNENÄCOMMAÄEXCLAMATION MARKÄLAJANYALAN=7fdÄDANTAYALANÅOROME kÄTAMAN k
ÀSAMARITANbALAFÑBITÑGAMANÑDALATÑIYÑBAAÑZENÑITÑTITÑYUTÑKAAFÑLABATÑMIMÑNUNÑSINGAATÑINÑFIÑTSAADIYÑQUF
ÑRISHÑSHANÑTAAFÊMARK INÑ-ALAFÏOCCLUSIONÏDAGESHËODIFIERbEPENTHETIC YUTËARK EPENTHETIC YUTÊyk LONG E
ÕEÕOVERLONG AAÕLONG AAÕAAÕOVERLONG AÕLONG AÕAÊMODIFIERbSHORT AÊyk SHORT AÕLONG UÕUÊMODIFIERbI
Êyk LONG IÕIÕOÕSUKUNÊMARK NEQUDAA=830ÊPUNCTUATION NEQUDAAÖAFSAAQ×NGEDÖBAUÖATMAAUÖSHIYYAALAA
ÊABBREVIATION MARKÊPUNCTUATION MELODIC QITSAÖZIQAAÖQITSAÖZAEFÖTURUÖARKAANUÖSOF MASHFAATÖANNAAU
=840ÀMANDAICbHALQAÏABÐGÐDÐHÏUSHENNAÏAZÏITÏATTÐKSAÑÐLÐMÐNÐSÏINÏAPÐSZÐQÐRÐSHÐTÏDUSHENNAÏKADÏAIN
ÈAFFRICATION MARKÈVOCALIZATION MARKÈGEMINATION MARK=85eÈPUNCTUATION=860ÀSYRIACbMALAYALAM NGAØJA
ØNYAØTTAØNNAÚNAØBHAØRAØLLAÚLAØSSA=870ÀARABICbALEFaATTACHED FATHAáTOP m FATHAØm MIDDLE wØpMIDDLE w
ØATTACHED KASRAáBOTTOM m KASRAáROUND DOTlâIGHT ROUND DOTápROUND DOTáROUND DOToØDOTl
ØATTACHED TOP m FATHAfDOTlØm MIDDLE wfDOTlØATTACHED BOTTOM m KASRAfDOTláTOP m FATHAfpRING
Øm MIDDLE wfpRINGØATTACHED BOTTOM m KASRAfpRINGám HAMZAápHAMZAÇTATWEELaOVERSTRUCK HAMZAßWAW
ÔTWO DOTSoÇvTHIN YEHÇBASELINE ROUND DOTÇRAISED ROUND DOTÇvNOONaINVERTED d VÎHAHaINVERTED d Vo
ÎTAHaDOTo×THREE DOTSoÎKEHEHaTWO DOTS tLYoÇt TAIL=890ÇPOUND MARKlÈIASTRE MARKl
=898Çd HIGH WORD AL-JUZÍLOW WORD ISHMAAM×MAALAÖTASHEELÇMADDA WAAJIBÇSUPERSCRIPT ALEF MOKHASSAS
ÇDOUBLED MADDAÇHALF MADDA OVER MADDAÇvBEHad Vo×HAMZAlÎJEEMaTWO DOTSlÎTAHaTWO DOTSl
ÎFEHaDOTofTHREE DOTSlÎQAFaDOToÎLAManBARÎMEEMaTHREE DOTSlÎYEHaTWO DOTSofHAMZAlêDOTlÎREHaLOOP
ÎWAWaDOT WITHINÎROHINGYA YEHÎLOW ALEFÎDALaTHREE DOTSoÎSADaTHREE DOTSoÎGAFaINVERTED wÎSTRAIGHT WAW
ÎZAINaINVERTED VlÎAINaTHREE DOTSoÎKAFaDOToÎQAFaDOTofNO DOTSlÎBEHad MEEMlÎPEHad MEEMlÎTEHad TEHl
ÎREHad NOONlÎYEHaTWO DOTSofd NOONlÎAFRICAN FEHÖQAFÖNOONÎPEHad VÎTEHad VÏTEHad VÏCHEHad VÎKEHEHad V
ÎGHAINaTHREE DOTSlÎAFRICAN QAFaTHREE DOTSlÎJEEMaTHREE DOTSlãBELOWÎLAMad ARABICbTAHlÎGRAF
Çd FARSI YEHÍHIGH FARSI YEHÒYEH BARREEaTWO DOTSoÒWORD SAHÒZAHÇLARGE ROUND DOTl×BELOWÇSUKUNo
ÇLARGE CIRCLEoÍROUND DOT INSIDE CIRCLEoÇd LOW WAWÍHIGH WORD AR-RUBÒSADÒAINÒQAFÒNOONaKASRA
ÍLOW NOONaKASRAÍHIGH WORD ATH-THALATHAØS-SAJDAØN-NISF×SAKTA×QIF×WAQFAÒFOOTNOTE MARKERÒk SAFHA
ÇDISPUTED END OF AYAHÇTURNED DAMMAoÇCURLY FATHAÍDAMMAÍKASRAÍFATHATANÍDAMMATANÍKASRATAN
ÇTONE ONE DOTlÌTWO DOTSlÌLOOPlÌONE DOToÌTWO DOTSoÌLOOPoÇOPEN FATHATANÌDAMMATANÌKASRATANÇd HIGH WAW
ÇFATHAaRINGÒDOTlÇKASRAaDOToÇpgHEADlÇm gHEADlÇpgHEADoÇm gHEADoÇnm gHEADlãaDOTÇm gHEADlaDOT
ÇDAMMAaDOTÇMARK SIDEWAYS NOON GHUNNAÀDEVANAGARI k INVERTED CANDRABINDUÐCANDRABINDUÐANUSVARA
ÐVISARGAËvSHORT AÒAÓAÒIÓIÒUÓUÒVOCALIC RÚLÒCANDRA EÒSHORT EÒEÒAIÒCANDRA OÒSHORT OÒOÒAUÒKAÓHAÒGAÓHA
ÒNGAÒCAÓHAÒJAÓHAÒNYAÒTTAÔHAÒDDAÔHAÒNNAÒTAÓHAÒDAÓHAÒNAÓNNAÒPAÓHAÒBAÓHAÒMAÒYAÒRAÓRAÒLAÓLAÔLAÒVAÒSHA
ÓSAÓAÒHAËyk OE×OEËk NUKTAÐAVAGRAHAËyk AAÖI×IÖU×UÖVOCALIC RßRÖCANDRA EÖSHORT EÖEÖAIÖCANDRA O
ÖSHORT OÖOÖAUËk VIRAMAËyk PRISHTHAMATRA EÖAWËOMËSTRESS k UDATTA×ANUDATTAËGRAVE ACCENTËACUTE ACCENT
Ëyk CANDRA LONG EÖUE×UEËvQAÒKHHAÒGHHAÒZAÒDDDHAÒRHAÒFAÒYYAÒVOCALIC RRÚLLËyk VOCALIC LßLËDANDA
ÌOUBLE DANDAÌIGIT ZEROÑONEÑTWOÒHREEÑFOURÒIVEÑSIXÒEVENÑEIGHTÑNINEËABBREVIATION kËk HIGH SPACING DOT
ËvCANDRA AÒOEÓOEÒAWÒUEÓUEÒMARWARI DDAÒZHAÒHEAVY YAÒGGAÒJJAÒGLOTTAL STOPÒDDDAÒBBAÀBENGALI ANJI
Èk CANDRABINDUÍANUSVARAÍVISARGA=985ÈvAÐAÏIÐIÏUÐUÏVOCALIC R×L=98fÏEÏAI=993ÏOÏAUÏKAÐHAÏGAÐHAÏNGAÏCA
ÐHAÏJAÐHAÏNYAÏTTAÑHAÏDDAÑHAÏNNAÏTAÐHAÏDAÐHAÏNA=9aaÏPAÐHAÏBAÐHAÏMAÏYAÏRA=9b2ÏLA=9b6ÏSHAÐSAÐAÏHA
=9bcÈk NUKTAÍAVAGRAHAÈyk AAÓIÔIÓUÔUÓVOCALIC RÜR=9c7ÓEÓAI=9cbÓOÓAUÈk VIRAMAÈvKHANDA TA
=9d7ÈAU LENGTH MARK=9dcÈvRRAÐHA=9dfÏYYAÏVOCALIC RR×LLÈyk VOCALIC LÜL=9e6ÈDIGIT ZEROÎONEÎTWOÏHREE
ÎFOURÏIVEÎSIXÏEVENÎEIGHTÎNINEÈvRAaMIDDLE DIAGONAL×LOWER DIAGONALÈRUPEE MARKÎk
ÈCURRENCY NUMERATOR ONEÛTWOÜHREEÛFOURÛONE LESS THAN THE DENOMINATORÑDENOMINATOR SIXTEENÈISSHAR
ÈGANDA MARKÈvVEDIC ANUSVARAÈABBREVIATION kÈSANDHI MARK=a01ÀGURMUKHI k ADAK BINDIÎBINDIÎVISARGA
=a05ÉvAÑAÐIÑIÐUÑU=a0fÐEEÐAI=a13ÐOOÐAUÐKAÑHAÐGAÑHAÐNGAÐCAÑHAÐJAÑHAÐNYAÐTTAÒHAÐDDAÒHAÐNNAÐTAÑHAÐDA
ÑHAÐNA=a2aÐPAÑHAÐBAÑHAÐMAÐYAÐRA=a32ÐLAÑLA=a35ÐVAÐSHA=a38ÑAÐHA=a3cÉk NUKTA=a3eÉyk AAÔIÕIÔUÕU=a47ÔEE
ÔAI=a4bÔOOÔAUÉk VIRAMA=a51ÎUDAAT=a59ÉvKHHAÐGHHAÐZAÐRRA=a5eÐFA=a66ÉDIGIT ZEROÏONEÏTWOÐHREEÏFOURÐIVE
ÏSIXÐEVENÏEIGHTÏNINEÉTIPPIÉADDAKÉIRIÉURAÉEK ONKARÉk YAKASHÉABBREVIATION k=a81ÂJARATI k CANDRABINDU
ÎANUSVARAÎVISARGA=a85ÉvAÑAÐIÑIÐUÑUÐVOCALIC RØLÉyCANDRA E=a8fÉvEÐAIÉyCANDRA O=a93ÉvOÐAUÐKAÑHAÐGAÑHA
ÐNGAÐCAÑHAÐJAÑHAÐNYAÐTTAÒHAÐDDAÒHAÐNNAÐTAÑHAÐDAÑHAÐNA=aaaÐPAÑHAÐBAÑHAÐMAÐYAÐRA=ab2ÐLAÑLA=ab5ÐVA
ÐSHAÑSAÑAÐHA=abcÉk NUKTAÎAVAGRAHAÉyk AAÔIÕIÔUÕUÔVOCALIC RÝRÔCANDRA E=ac7ÔEÔAIÔCANDRA O=acbÔOÔAU
Ék VIRAMA=ad0ÉOM=ae0ÉvVOCALIC RRØLLÉyk VOCALIC LÝL=ae6ÉDIGIT ZEROÏONEÏTWOÐHREEÏFOURÐIVEÏSIXÐEVEN
ÏEIGHTÏNINEÉABBREVIATION kÉRUPEE k=af9ÉvZHAÉk SUKUNÏHADDAÎMADDAHÎTHREE-DOT NUKTAlÎCIRCLE NUKTAl
ÎTWO-CIRCLE NUKTAl=b01ÀORIYA k CANDRABINDUËANUSVARAËVISARGA=b05ÆvAÎAÍIÎIÍUÎUÍVOCALIC RÕL=b0fÍEÍAI
=b13ÍOÍAUÍKAÎHAÍGAÎHAÍNGAÍCAÎHAÍJAÎHAÍNYAÍTTAÏHAÍDDAÏHAÍNNAÍTAÎHAÍDAÎHAÍNA=b2aÍPAÎHAÍBAÎHAÍMAÍYA
ÍRA=b32ÍLAÎLA=b35ÍVAÍSHAÎSAÎAÍHA=b3cÆk NUKTAËAVAGRAHAÆyk AAÑIÒIÑUÒUÑVOCALIC RÚR=b47ÑEÑAI=b4bÑOÑAU
Æk VIRAMA=b55ËOVERLINEÆAI LENGTH MARKÇU LENGTH MARK=b5cÆvRRAÎHA=b5fÍYYAÍVOCALIC RRÕLLÆyk VOCALIC L
ÚL=b66ÆDIGIT ZEROÌONEÌTWOÍHREEÌFOURÍIVEÌSIXÍEVENÌEIGHTÌNINEÆISSHARÆvWAÆFRACTION ONE QUARTERÓHALF
ÏTHREE QUARTERSÏONE SIXTEENTHÓEIGHTHÏTHREE SIXTEENTHS=b82ÀTAMIL k ANUSVARAËVISARGA=b85ÆvAÎAÍIÎIÍU
ÎU=b8eÍEÎEÍAI=b92ÍOÎOÍAUÍKA=b99ÍNGAÍCA=b9cÍJA=b9eÍNYAÍTTA=ba3ÍNNAÍTA=ba8ÍNAÎNNAÍPA=baeÍMAÍYAÍRAÎRA
ÍLAÎLAÏLAÍVAÍSHAÎSAÎAÍHA=bbeÆyk AAÑIÒIÑUÒU=bc6ÑEÒEÑAI=bcaÑOÒOÑAUÆk VIRAMA=bd0ÆOM
=bd7ÆAU LENGTH MARK=be6ÆDIGIT ZEROÌONEÌTWOÍHREEÌFOURÍIVEÌSIXÍEVENÌEIGHTÌNINEÆNUMBER TEN
ÍONE HUNDREDÑTHOUSANDÆDAY kÆMONTH kÆYEAR kÆDEBIT kÆCREDIT kÆASl kÆRUPEE kÆNUMBER k
=c00ÁELUGU k COMBINING CANDRABINDUlÍANDRABINDUÌANUSVARAÌVISARGAÌCOMBINING ANUSVARAlÇvAÏAÎIÏIÎUÏU
ÎVOCALIC RÖL=c0eÎEÏEÎAI=c12ÎOÏOÎAUÎKAÏHAÎGAÏHAÎNGAÎCAÏHAÎJAÏHAÎNYAÎTTAÐHAÎDDAÐHAÎNNAÎTAÏHAÎDAÏHA
ÎNA=c2aÎPAÏHAÎBAÏHAÎMAÎYAÎRAÏRAÎLAÏLAÐLAÎVAÎSHAÏSAÏAÎHA=c3cÇk NUKTAÌAVAGRAHAÇyk AAÒIÓIÒUÓU
ÒVOCALIC RÛR=c46ÒEÓEÒAI=c4aÒOÓOÒAUÇk VIRAMA=c55ÇLENGTH MARKÇAI LENGTH MARK=c58ÇvTSAÎDZAÎRRRA
=c5dÎNAKAARA POLLU=c60ÎVOCALIC RRÖLLÇyk VOCALIC LÛL=c66ÇDIGIT ZEROÍONEÍTWOÎHREEÍFOURÎIVEÍSIXÎEVEN
ÍEIGHTÍNINE=c77Çk SIDDHAMÇFRACTION DIGIT ZERO FOR ODD POWERS OF FOURÖONE FOR ODD POWERS OF FOUR
ÖTWO FOR ODD POWERS OF FOUR×HREE FOR ODD POWERS OF FOURÖONE FOR EVEN POWERS OF FOUR
ÖTWO FOR EVEN POWERS OF FOUR×HREE FOR EVEN POWERS OF FOURÇk TUUMUÀKANNADA k SPACING CANDRABINDU
ÍCANDRABINDUÍANUSVARAÍVISARGAÍSIDDHAMÈvAÐAÏIÐIÏUÐUÏVOCALIC R×L=c8eÏEÐEÏAI=c92ÏOÐOÏAUÏKAÐHAÏGAÐHA
ÏNGAÏCAÐHAÏJAÐHAÏNYAÏTTAÑHAÏDDAÑHAÏNNAÏTAÐHAÏDAÐHAÏNA=caaÏPAÐHAÏBAÐHAÏMAÏYAÏRAÐRAÏLAÐLA=cb5ÏVAÏSHA
ÐSAÐAÏHA=cbcÈk NUKTAÍAVAGRAHAÈyk AAÓIÔIÓUÔUÓVOCALIC RÜR=cc6ÓEÔEÓAI=ccaÓOÔOÓAUÈk VIRAMA
=cd5ÈLENGTH MARKÈAI LENGTH MARK=cddÈvNAKAARA POLLUÏFA=ce0ÏVOCALIC RR×LLÈyk VOCALIC LÜL
=ce6ÈDIGIT ZEROÎONEÎTWOÏHREEÎFOURÏIVEÎSIXÏEVENÎEIGHTÎNINE=cf1Èk JIHVAMULIYAÍUPADHMANIYA
=d00ÀMALAYALAM k COMBINING ANUSVARAlÐANDRABINDUÏANUSVARAÏVISARGAÊvVEDIC ANUSVARAÑAÒAÑIÒIÑUÒU
ÑVOCALIC RÙL=d0eÑEÒEÑAI=d12ÑOÒOÑAUÑKAÒHAÑGAÒHAÑNGAÑCAÒHAÑJAÒHAÑNYAÑTTAÓHAÑDDAÓHAÑNNAÑTAÒHAÑDAÒHA
ÑNAÒNNAÑPAÒHAÑBAÒHAÑMAÑYAÑRAÒRAÑLAÒLAÓLAÑVAÑSHAÒSAÒAÑHAÑTTTAÊk t BAR VIRAMAÏCIRCULAR VIRAMA
ÏAVAGRAHAÊyk AAÕIÖIÕUÖUÕVOCALIC RÞR=d46ÕEÖEÕAI=d4aÕOÖOÕAUÊk VIRAMAÊvDOT REPHÊk PARA=d54ÊvCHILLU M
ØYØLLLÊAU LENGTH MARKÊFRACTION ONE ONE-HUNDRED-AND-SIXTIETH×FORTIETHÓTHREE EIGHTIETHS
ÓONE TWENTIETHØENTHÓTHREE TWENTIETHSÓONE FIFTHÊvARCHAIC IIÑVOCALIC RRÙLLÊyk VOCALIC LÞL
=d66ÊDIGIT ZEROÐONEÐTWOÑHREEÐFOURÑIVEÐSIXÑEVENÐEIGHTÐNINEÊNUMBER TENÑONE HUNDREDÕTHOUSAND
ÊFRACTION ONE QUARTER×HALFÓTHREE QUARTERSÓONE SIXTEENTH×EIGHTHÓTHREE SIXTEENTHSÊDATE MARK
ÊvCHILLU NNÙØRRØLÙLØK=d81ÀSINHALA k CANDRABINDUÍANUSVARAYAÍVISARGAYA=d85ÈvAYANNAÐAYANNAÐEYANNA
ÑEYANNAÏIYANNAÐIYANNAÏUYANNAÐUYANNAÏIRUYANNAÒUYANNAÐLUYANNAÒUYANNAÏEYANNAÐEYANNAÏAIYANNAÏOYANNA
ÐOYANNAÏAUYANNA=d9aÐLPAPRAANA KAYANNAÏMAHAAPRAANA KAYANNAÏALPAPRAANA GAYANNAÏMAHAAPRAANA GAYANNA
ÏKANTAJA NAASIKYAYAÏSANYAKA GAYANNAÏALPAPRAANA CAYANNAÏMAHAAPRAANA CAYANNAÏALPAPRAANA JAYANNA
ÏMAHAAPRAANA JAYANNAÏTAALUJA NAASIKYAYA×SANYOOGA NAAKSIKYAYAÏSANYAKA JAYANNAÏALPAPRAANA TTAYANNA
ÏMAHAAPRAANA TTAYANNAÏALPAPRAANA DDAYANNAÏMAHAAPRAANA DDAYANNAÐUURDHAJA NAYANNAÏSANYAKA DDAYANNA
ÏALPAPRAANA TAYANNAÏMAHAAPRAANA TAYANNAÏALPAPRAANA DAYANNAÏMAHAAPRAANA DAYANNAÏDANTAJA NAYANNA
=db3ÏSANYAKA DAYANNAÏALPAPRAANA PAYANNAÏMAHAAPRAANA PAYANNAÏALPAPRAANA BAYANNAÏMAHAAPRAANA BAYANNA
ÑYANNAÏAMBA BAYANNAÏYAYANNAÏRAYANNA=dbdÏDANTAJA LAYANNA=dc0ÏVAYANNAÏTAALUJA SAYANNA
ÏMUURDHAJA SAYANNAÏDANTAJA SAYANNAÏHAYANNAÏMUURDHAJA LAYANNAÏFAYANNA=dcaÈk AL-LAKUNA
=dcfÈyk AELA-PILLAÓKETTI AEDA-PILLAÓDIGA AEDA-PILLAÓKETTI IS-PILLAÓDIGA IS-PILLAÓKETTI PAA-PILLA
=dd6ÓDIGA PAA-PILLA=dd8ÓGAETTA-PILLAÓKOMBUVAÓDIGA KOMBUVAÓKOMBU DEKAØVA HAA AELA-PILLA
ßDIGA AELA-PILLAßGAYANUKITTAÓGAYANUKITTA=de6ÈLITH DIGIT ZEROÓONEÓTWOÔHREEÓFOURÔIVEÓSIXÔEVENÓEIGHT
ÓNINE=df2Èyk DIGA GAETTA-PILLAÚYANUKITTAÈPUNCTUATION KUNDDALIYA=e01ÀTHAI CHARACTER KO KAIÐHO KHAI
ÕUATÕWAIÕONÓRAKHANGÏNGO NGUÏCHO CHANÕINGÕANGÏSO SOÏCHO CHOEÏYO YINGÏDO CHADAÏTO PATAKÐHO THAN
ÓNANGMONTHOÓPHUTHAOÏNO NENÏDO DEKÏTO TAOÐHO THUNGÕAHANÕONGÏNO NUÏBO BAIMAIÏPO PLAÐHO PHUNGÏFO FA
ÏPHO PHANÏFO FANÏPHO SAMPHAOÏMO MAÏYO YAKÏRO RUAÐUÏLO LINGÐUÏWO WAENÏSO SALAÒRUSIÒSUAÏHO HIP
ÏLO CHULAÏO ANGÏHO NOKHUKÏPAIYANNOIÏSARA AÏMAI HAN-AKATÏSARA AAÕMÔIÕIÔUEÖEÕÕUÏPHINTHU
=e3fÆURRENCY z BAHTÆHARACTER SARA EÔAEÔOÔAI MAIMUANÛALAIÏLAKKHANGYAOÏMAIYAMOKÒTAIKHUÒ EKÓTHOÔRI
ÓCHATTAWAÏTHANTHAKHATÏNIKHAHITÏYAMAKKANÏFONGMANÅDIGIT ZEROËONEËTWOÌHREEËFOURÌIVEËSIXÌEVENËEIGHT
ËNINEÅCHARACTER ANGKHANKHUÏKHOMUT=e81ÀLAObKOÌHO SUNG=e84ÏTAM=e86ËPALI GHAËNGOËCOËPALI CHAËSO TAM
=e8cËPALI JHAËNYOËPALI NYAÐTTAÒHAÐDDAÒHAÐNNAËDOËTOÌHO SUNGÏTAMËPALI DHAËNOËBOËPOÌHO SUNGËFO TAM
ËPHO TAMËFO SUNGËPALI BHAËMOËYOËLO LING=ea5ÏOOT=ea7ËWOËSANSKRIT SHAÕSAÌO SUNGËHO SUNGËPALI LLAËO
ËHO TAMÄELLIPSISÄyk AÏMAI KANÏAAÐMÏIÐIÏYÐYÏUÐUÄk PALI VIRAMAÄyk MAI KONÄSEMIyk LOÓNYO=ec0Äyk EÐIÏO
ÏAYÐI=ec6ÄKO LA=ec8ÄTONE MAI EKÍTHOÎIÍCATAWAÄCANCELLATION MARKÄNIGGAHITA=ed0ÄDIGIT ZEROÊONEÊTWO
ËHREEÊFOURËIVEÊSIXËEVENÊEIGHTÊNINE=edcÄHO NOÇMOÄvKHMU GOÐNYO=f00ÀTIBETAN SYLLABLE OM
ÈMARK GTER YIG MGO TRUNCATED AÚ-UM RNAM BCAD MAÞGTER TSHEG MAÍINITIAL YIG MGO MDUN MA
ÍCLOSING YIG MGO SGAB MAÎARET YIG MGO PHUR SHAD MAÍYIG MGO TSHEG SHAD MAÍSBRUL SHADÍBSKUR YIG MGO
ÎKA- SHOG YIG MGOÍINTERSYLLABIC TSHEGÍDELIMITER TSHEG BSTARÍSHADÍNYIS SHADÍTSHEG SHAD
ÍNYIS TSHEG SHADÍRIN CHEN SPUNGS SHADÎGYA GRAM SHADÍCARET -DZUD RTAGS ME LONG CANÍGTER TSHEG
ÈLOGOTYPE k CHAD RTAGSÖLHAG RTAGSÈASTROLOGICAL k SGRA GCAN -CHAR RTAGSÚ-KHYUD PAÚSDONG TSHUGS
Èk RDEL DKAR GCIGØNYISØSUMÒNAG GCIG×NYISÒDKAR RDEL NAGÈDIGIT ZEROÎONEÎTWOÏHREEÎFOURÏIVEÎSIXÏEVEN
ÎEIGHTÎNINEÎHALF ONEÓTWOÔHREEÓFOURÔIVEÓSIXÔEVENÓEIGHTÓNINEÓZEROÈMARK BSDUS RTAGS
ÍNGAS BZUNG NYI ZLAÍCARET -DZUD RTAGS BZHI MIG CANÍNGAS BZUNG SGOR RTAGSÍCHE MGOÍTSA -PHRU
ÍGUG RTAGS GYONÙASÍANG KHANG GYONÙASÈk YAR TSHESÍMAR TSHESÈvKAÐHAÏGAÐHAÏNGAÏCAÐHAÏJA=f49ÏNYAÏTTA
ÑHAÏDDAÑHAÏNNAÏTAÐHAÏDAÐHAÏNAÏPAÐHAÏBAÐHAÏMAÏTSAÑHAÏDZAÑHAÏWAÏZHAÐAÏ-AÏYAÏRAÏLAÏSHAÐSAÐAÏHAÏAÏKSSA
ÏFIXED-FORM RAÏKKAÏRRA=f71Èyk AAÓIÔIÓUÔUÓVOCALIC RÜRÛLÜLÓEÔEÓOÔOÈk RJES SU NGA ROÎNAM BCAD
Èyk REVERSED IÝIÈk NYI ZLA NAA DAÍSNA LDANÈMARK HALANTAÍPALUTAÈk LCI RTAGSÍYANG RTAGSÍLCE TSA CAN
ÍMCHU CANÍGRU CAN RGYINGSÑMED RGYINGSÍINVERTED MCHU CANÉUBJOINED k LCE TSA CAN×MCHU CAN
×INVERTED MCHU CANÒvKAÚHAÙGAÚHAÙNGAÙCAÚHAÙJA=f99ÙNYAÙTTAÛHAÙDDAÛHAÙNNAÙTAÚHAÙDAÚHAÙNAÙPAÚHAÙBAÚHA
ÙMAÙTSAÛHAÙDZAÛHAÙWAÙZHAÚAÙ-AÙYAÙRAÙLAÙSHAÚSAÚAÙHAÙAÙKSSAÙFIXED-FORM WAäYAäRA=fbeÈKU RU KHA
Ñ BZHI MIG CANÈCANTILLATION k HEAVY BEATÚLIGHT BEATÚCANG TE-UÚSBUB -CHALÈz DRIL BUÏRDO RJE
ÏPADMA GDANÏRDO RJE RGYA GRAMÏPHUR PAÏNOR BUÕ NYIS -KHYILÖGSUM -KHYILÖBZHI -KHYIL
=fceÉIGN RDEL NAG RDEL DKARÖGSUMÈMARK BSKA- SHOG GI MGO RGYANÍMNYAM YIG GI MGO RGYANÍNYIS TSHEG
ÍINITIAL BRDA RNYING YIG MGO MDUN MAÍCLOSING BRDA RNYING YIG MGO SGAB MAÀm-FACING SVASTI k
ÀLEFT-FACING SVASTI kÀm-FACING SVASTI kaDOTSÀLEFT-FACING SVASTI kaDOTS
ÀTIBETAN MARK LEADING MCHAN RTAGSÍTRAILING MCHAN RTAGS=1000ÀMYANMARbKAÐHAÏGAÐHAÏNGAÏCAÐHAÏJAÐHA
ÏNYAÐNYAÏTTAÑHAÏDDAÑHAÏNNAÏTAÐHAÏDAÐHAÏNAÏPAÐHAÏBAÐHAÏMAÏYAÏRAÏLAÏWAÏSAÏHAÏLLAÏAÏSHAN AÏIÐIÏUÐUÏE
ÏMON EÏOÏAUÈyk TALL AAÓAAÓIÔIÓUÔUÓEÓAIÓMON II×OÓElÈk ANUSVARAÍDOToÍVISARGAÏRAMAÍASAT
ÈCONSONANT k MEDIAL YAÞRAÞWAÞHAÈvGREAT SAÈDIGIT ZEROÎONEÎTWOÏHREEÎFOURÏIVEÎSIXÏEVENÎEIGHTÎNINE
Èk LITTLE SECTIONÍSECTIONÉYMBOL LOCATIVEÏCOMPLETEDÏAFOREMENTIONEDÏGENITIVEÈvSHAÐSAÏVOCALIC RØR×LØL
Èyk VOCALIC RÜRÛLÜLÈvMON NGAÓJHAÓBBAÕEÈCONSONANT k MON MEDIAL NAâMAâLAÈvSGAW KAREN SHA
Èyk SGAW KAREN EUÈTONE MARK SGAW KAREN HATHIÝKE PHOÈvWESTERN PWO KAREN THAáPWA
Èyk WESTERN PWO KAREN EUåUEÈk WESTERN PWO KAREN TONE-1ä2ä3ä4ä5ÈvEASTERN PWO KAREN NNAáYWAáGHWA
Èyk GEBA KAREN IÓKAYAH OEÙUÙEEÈvSHAN KAÕHAÔGAÔCAÔZAÔNYAÔDAÔNAÔPHAÔFAÔBAÔTHAÔHA
ÈCONSONANT k SHAN MEDIAL WAÈyk SHAN AAØEÙlØFINAL YÈk SHAN TONE-2×3×5×6ÒCOUNCIL TONE-2ß3
ÚEMPHATIC TONEÈvRUMAI PALAUNG FAÈk RUMAI PALAUNG TONE-5ÉHAN DIGIT ZEROÓONEÓTWOÔHREEÓFOURÔIVEÓSIX
ÔEVENÓEIGHTÓNINEÉIGN KHAMTI TONE-1Ù3Èyk AITON AÚIÈz SHAN ONEÔEXCLAMATIONÀGEORGIAN cbANØBANØGANØDON
ØENØVINØZENØTANØINØKANØLASØMANØNARØONØPARØZHARØRAEØSANØTARØUNØPHARØKHARØGHANØQARØSHINØCHINÙANØJIL
ØCILÙHARØXANØJHANØHAEÙEÙIEØWEØHARÙOE=10c7ØYN=10cdØAEN=10d0ÉvANÐBANÐGANÐDONÐENÐVINÐZENÐTANÐINÐKAN
ÐLASÐMANÐNARÐONÐPARÐZHARÐRAEÐSANÐTARÐUNÐPHARÐKHARÐGHANÐQARÐSHINÐCHINÑANÐJILÐCILÑHARÐXANÐJHANÐHAEÑE
ÑIEÐWEÐHARÑOEÐFIÐYNÐELIFIÐTURNED GANÐAINÉPARAGRAPH SEPARATORÀMODIFIERbGEORGIAN NARÀGEORGIANbAEN
ÐHARD kÐLABIAL kÀHANGUL CHOSEONG KIYEOKÐSSANGKIYEOKÐNIEUNÐTIKEUTÐSSANGTIKEUTÐRIEULÐMIEUMÐPIEUP
ÐSSANGPIEUPÑIOSÑSANGSIOSÐIEUNGÐCIEUCÐSSANGCIEUCÐCHIEUCHÐKHIEUKHÐTHIEUTHÐPHIEUPHÐHIEUHÐNIEUN-KIYEOK
ÐSSANGNIEUNÐNIEUN-TIKEUTÖPIEUPÐTIKEUT-KIYEOKÐRIEUL-NIEUNÐSSANGRIEULÐRIEUL-HIEUHÐKAPYEOUNRIEUL
ÐMIEUM-PIEUPÐKAPYEOUNMIEUMÐPIEUP-KIYEOKÖNIEUNÖTIKEUTÖSIOSÚ-KIYEOKÛTIKEUTÛPIEUP×SANGSIOS×IOS-CIEUC
ÖCIEUC×HIEUCHÖTHIEUTHÖPHIEUPHÐKAPYEOUNPIEUPØSSANGPIEUPÐSIOS-KIYEOKÕNIEUNÕTIKEUTÕRIEULÕMIEUMÕPIEUP
Ú-KIYEOKÕSSANGSIOSÕIEUNGÕCIEUCÖHIEUCHÕKHIEUKHÕTHIEUTHÕPHIEUPHÕHIEUHÐCHITUEUMSIOSÙSANGSIOS
ÑEONGCHIEUMSIOSÜSANGSIOSÐPANSIOSÐIEUNG-KIYEOKÖTIKEUTÖMIEUMÖPIEUPÖSIOSÖPANSIOSÐSSANGIEUNG
ÐIEUNG-CIEUC×HIEUCHÖTHIEUTHÖPHIEUPHÐYESIEUNGÐCIEUC-IEUNGÑHITUEUMCIEUCØSSANGCIEUCÑEONGCHIEUMCIEUC
ÛSSANGCIEUCÑHIEUCH-KHIEUKHØHIEUHÓTUEUMCHIEUCHÑEONGCHIEUMCHIEUCHÐPHIEUPH-PIEUPÐKAPYEOUNPHIEUPH
ÐSSANGHIEUHÐYEORINHIEUHÐKIYEOK-TIKEUTÐNIEUN-SIOSÖCIEUCÖHIEUHÐTIKEUT-RIEULÐFILLERÇJUNGSEONG FILLER
ÑAÒEÑYAÓEÑEOÒÑYEOÓÑOÑWAÓEÑOEÑYOÑUÑWEOÓÒIÑYUÑEUÑYIÑIÑA-OÓUÑYA-OÔYOÑEO-OÔUÔEUÑYEO-OÕUÑO-EOÔÓYEÓOÓU
ÑYO-YAÖEÕEOÔOÔIÑU-AÔEÓEO-EUÓYEÓUÑYU-AÔEOÕÔYEOÖÔUÔIÑEU-UÔEUÑYI-UÑI-AÓYAÓOÓUÓEUÓARAEAÑARAEAÖ-EO×U×I
ÑSSANGARAEAÑA-EUÑYA-UÒEO-YAÑO-YAÕEÈONGSEONG KIYEOKÑSSANGKIYEOKÑKIYEOK-SIOSÑNIEUNÖ-CIEUC×HIEUH
ÑTIKEUTÑRIEULÖ-KIYEOK×MIEUM×PIEUP×SIOS×THIEUTH×PHIEUPH×HIEUHÑMIEUMÑPIEUPÖ-SIOSÑSIOSÒSANGSIOSÑIEUNG
ÑCIEUCÒHIEUCHÑKHIEUKHÑTHIEUTHÑPHIEUPHÑHIEUHÑKIYEOK-RIEULØSIOS-KIYEOKÑNIEUN-KIYEOK×TIKEUT×SIOS
×PANSIOS×THIEUTHÑTIKEUT-KIYEOKØRIEULÑRIEUL-KIYEOK-SIOS×NIEUN×TIKEUTÝ-HIEUHÑSSANGRIEUL
ÑRIEUL-MIEUM-KIYEOKÝSIOS×PIEUP-SIOSÝHIEUH×KAPYEOUNPIEUP×SSANGSIOS×PANSIOS×KHIEUKH×YEORINHIEUH
ÑMIEUM-KIYEOK×RIEUL×PIEUP×SIOSØSANGSIOS×PANSIOS×CHIEUCH×HIEUHÑKAPYEOUNMIEUMÑPIEUP-RIEUL×PHIEUPH
×HIEUHÑKAPYEOUNPIEUPÑSIOS-KIYEOKÖTIKEUTÖRIEULÖPIEUPÑPANSIOSÑIEUNG-KIYEOK×SSANGKIYEOKÑSSANGIEUNG
ÑIEUNG-KHIEUKHÑYESIEUNGÙ-SIOSÚPANSIOSÑPHIEUPH-PIEUPÑKAPYEOUNPHIEUPHÑHIEUH-NIEUN×RIEUL×MIEUM×PIEUP
ÑYEORINHIEUHÑKIYEOK-NIEUNØPIEUPØCHIEUCHØKHIEUKHØHIEUHÑSSANGNIEUNÀETHIOPIC SYLLABLE HAÓUÓIÓAAÓEEÔÓO
ÔAÒLAÓUÓIÓAAÓEEÔÓOÓWAÒHHAÔUÔIÔAAÔEEÕÔOÔWAÒMAÓUÓIÓAAÓEEÔÓOÓWAÒSZAÔUÔIÔAAÔEEÕÔOÔWAÒRAÓUÓIÓAAÓEEÔÓO
ÓWAÒSAÓUÓIÓAAÓEEÔÓOÓWAÓHAÔUÔIÔAAÔEEÕÔOÔWAÒQAÓUÓIÓAAÓEEÔÓOÔAÓWA=124aÔIÔAAÔEEÕ=1250ÓHAÔUÔIÔAAÔEEÕÔO
=1258ÔWA=125aÕIÕAAÕEEÖ=1260ÒBAÓUÓIÓAAÓEEÔÓOÓWAÒVAÓUÓIÓAAÓEEÔÓOÓWAÒTAÓUÓIÓAAÓEEÔÓOÓWAÒCAÓUÓIÓAAÓEEÔ
ÓOÓWAÒXAÓUÓIÓAAÓEEÔÓOÔAÓWA=128aÔIÔAAÔEEÕ=1290ÒNAÓUÓIÓAAÓEEÔÓOÓWAÓYAÔUÔIÔAAÔEEÕÔOÔWAÒGLOTTAL AÚUÚI
ÚAAÚEEÛÚOÚWAÒKAÓUÓIÓAAÓEEÔÓOÔAÓWA=12b2ÔIÔAAÔEEÕ=12b8ÓXAÔUÔIÔAAÔEEÕÔO=12c0ÔWA=12c2ÕIÕAAÕEEÖ=12c8ÒWA
ÓUÓIÓAAÓEEÔÓOÔAÒPHARYNGEAL AÝUÝIÝAAÝEEÞÝO=12d8ÒZAÓUÓIÓAAÓEEÔÓOÓWAÓHAÔUÔIÔAAÔEEÕÔOÔWAÒYAÓUÓIÓAAÓEEÔ
ÓOÔAÒDAÓUÓIÓAAÓEEÔÓOÓWAÓDAÔUÔIÔAAÔEEÕÔOÔWAÒJAÓUÓIÓAAÓEEÔÓOÓWAÒGAÓUÓIÓAAÓEEÔÓOÔAÓWA=1312ÔIÔAAÔEEÕ
=1318ÓGAÔUÔIÔAAÔEEÕÔOÔWAAÒTHAÔUÔIÔAAÔEEÕÔOÔWAÒCHAÔUÔIÔAAÔEEÕÔOÔWAÒPHAÔUÔIÔAAÔEEÕÔOÔWAÒTSAÔUÔIÔAA
ÔEEÕÔOÔWAÓZAÔUÔIÔAAÔEEÕÔOÕAÒFAÓUÓIÓAAÓEEÔÓOÓWAÒPAÓUÓIÓAAÓEEÔÓOÓWAÒRYAÒMYAÒFYA
=135dÉCOMBINING GEMINATIONfyLENGTH MARKÓyLENGTH MARKÓGEMINATION MARKÉSECTION MARKÉWORDSPACE
ÉFULL STOPÉCOMMAÉSEMICOLONÉCOLONÉPREFACE COLONÉQUESTION MARKÉPARAGRAPH SEPARATORÉDIGIT ONEÏTWO
ÐHREEÏFOURÐIVEÏSIXÐEVENÏEIGHTÏNINEÉNUMBER TENÑWENTYÑHIRTYÐFORTYÑIFTYÐSIXTYÑEVENTYÐEIGHTYÐNINETY
ÐHUNDREDÐTEN THOUSAND=1380ÉSYLLABLE SEBATBEIT MWAÒMWIÔEEÕÒSEBATBEIT BWAÒBWIÔEEÕÒSEBATBEIT FWAÒFWI
ÔEEÕÒSEBATBEIT PWAÒPWIÔEEÕÉTONAL MARK YIZETÔDERETÔRIKRIKÔSHORT RIKRIKÔDIFATÔKENATÔCHIRETÔHIDET
ÔDERET-HIDETÔKURT=13a0ÀCHEROKEEbAÐEÐIÐOÐUÐVÐGAÐKAÐGEÑIÑOÑUÑVÐHAÑEÑIÑOÑUÑVÐLAÑEÑIÑOÑUÑVÐMAÑEÑIÑOÑU
ÐNAÐHNAÐNAHÑEÑIÑOÑUÑVÐQUAÒEÒIÒOÒUÒVÐSAÑÑEÑIÑOÑUÑVÐDAÐTAÐDEÐTEÐDIÐTIÐDOÑUÑVÑLAÐTLAÒEÒIÒOÒUÒVÑSAÒEÒI
ÒOÒUÒVÐWAÑEÑIÑOÑUÑVÐYAÑEÑIÑOÑUÑVÐMV=13f8ÉdbYE×I×O×U×VÖMV=1400ÁANADIAN SYLLABICS HYPHENÓEÓAAIÓIÔIÓO
ÔOÓY-CREE OOÓCARRIER EEÛIÓAÔAÓWEÕST-CREE WEÔIÔEST-CREE WIÔIIÔEST-CREE WIIÔOÔEST-CREE WOÔOO
ÔEST-CREE WOOÓNASKAPI WOOÓWAÔEST-CREE WAÔAAÔEST-CREE WAAÓNASKAPI WAAÓAIÓY-CREE WÓGLOTTAL STOP
ÓFINAL ACUTEÙGRAVEÙBOTTOM HALF RINGÙTOP HALF RINGÙm HALF RINGÛNGÙnACUTEàSHORT t wSÙMIDDLE DOT
ÙSHORT HORIZONTAL wÙPLUSÙDOWN TACKÓENÓINÓONÓANÓPEÔAAIÔIÕIÔOÕOÓY-CREE POOÓCARRIER HEEÜIÓPAÕAÔWE
ÓWEST-CREE PWEÓPWIÓWEST-CREE PWIÓPWIIÓWEST-CREE PWIIÓPWOÓWEST-CREE PWOÓPWOOÓWEST-CREE PWOOÓPWA
ÓWEST-CREE PWAÓPWAAÓWEST-CREE PWAAÓY-CREE PWAAÓPÓWEST-CREE PÓCARRIER HÓTEÔAAIÔIÕIÔOÕOÓY-CREE TOO
ÓCARRIER DEEÜIÓTAÕAÔWEÓWEST-CREE TWEÓTWIÓWEST-CREE TWIÓTWIIÓWEST-CREE TWIIÓTWOÓWEST-CREE TWOÓTWOO
ÓWEST-CREE TWOOÓTWAÓWEST-CREE TWAÓTWAAÓWEST-CREE TWAAÓNASKAPI TWAAÓTÔTEÕIÕOÕAÓKEÔAAIÔIÕIÔOÕO
ÓY-CREE KOOÓKAÕAÔWEÓWEST-CREE KWEÓKWIÓWEST-CREE KWIÓKWIIÓWEST-CREE KWIIÓKWOÓWEST-CREE KWOÓKWOO
ÓWEST-CREE KWOOÓKWAÓWEST-CREE KWAÓKWAAÓWEST-CREE KWAAÓNASKAPI KWAAÓKÔWÓSOUTH-SLAVEY KEHáIHáOHáAH
ÓCEÔAAIÔIÕIÔOÕOÓY-CREE COOÓCAÕAÔWEÓWEST-CREE CWEÓCWIÓWEST-CREE CWIÓCWIIÓWEST-CREE CWIIÓCWO
ÓWEST-CREE CWOÓCWOOÓWEST-CREE CWOOÓCWAÓWEST-CREE CWAÓCWAAÓWEST-CREE CWAAÓNASKAPI CWAAÓCÓSAYISI TH
ÓMEÔAAIÔIÕIÔOÕOÓY-CREE MOOÓMAÕAÔWEÓWEST-CREE MWEÓMWIÓWEST-CREE MWIÓMWIIÓWEST-CREE MWIIÓMWO
ÓWEST-CREE MWOÓMWOOÓWEST-CREE MWOOÓMWAÓWEST-CREE MWAÓMWAAÓWEST-CREE MWAAÓNASKAPI MWAAÓM
ÓWEST-CREE MÓMHÓATHAPASCAN MÓSAYISI MÓNEÔAAIÔIÕIÔOÕOÓY-CREE NOOÓNAÕAÔWEÓWEST-CREE NWEÓNWA
ÓWEST-CREE NWAÓNWAAÓWEST-CREE NWAAÓNASKAPI NWAAÔÓCARRIER NGÓNHÓLEÔAAIÔIÕIÔOÕOÓY-CREE LOOÓLAÕAÔWE
ÓWEST-CREE LWEÓLWIÓWEST-CREE LWIÓLWIIÓWEST-CREE LWIIÓLWOÓWEST-CREE LWOÓLWOOÓWEST-CREE LWOOÓLWA
ÓWEST-CREE LWAÓLWAAÓWEST-CREE LWAAÓLÓWEST-CREE LÓMEDIAL LÓSEÔAAIÔIÕIÔOÕOÓY-CREE SOOÓSAÕAÔWE
ÓWEST-CREE SWEÓSWIÓWEST-CREE SWIÓSWIIÓWEST-CREE SWIIÓSWOÓWEST-CREE SWOÓSWOOÓWEST-CREE SWOOÓSWA
ÓWEST-CREE SWAÓSWAAÓWEST-CREE SWAAÓNASKAPI SWAAÓSÓATHAPASCAN SÓSWÓBLACKFOOT SÓMOOSE-CREE SK
ÓNASKAPI SKWÜ-WÜPWAÜTWAÜKWAÜCWAÓSHEÕIÖIÕOÖOÕAÖAÕWEÓWEST-CREE SHWEÓSHWIÓWEST-CREE SHWIÓSHWII
ÓWEST-CREE SHWIIÓSHWOÓWEST-CREE SHWOÓSHWOOÓWEST-CREE SHWOOÓSHWAÓWEST-CREE SHWAÓSHWAA
ÓWEST-CREE SHWAAÓSHÓYEÔAAIÔIÕIÔOÕOÔ-CREE YOOÔAÕAÔWEÓWEST-CREE YWEÓYWIÓWEST-CREE YWIÓYWII
ÓWEST-CREE YWIIÓYWOÓWEST-CREE YWOÓYWOOÓWEST-CREE YWOOÓYWAÓWEST-CREE YWAÓYWAAÓWEST-CREE YWAA
ÓNASKAPI YWAAÓYÓBIBLE-CREE YÓWEST-CREE YÓSAYISI YIÓREÔ-CREE REÓWEST-CREE LEÓRAAIÔIÕIÔOÕO
ÓWEST-CREE LOÓRAÕAÓWEST-CREE LAÓRWAAÓWEST-CREE RWAAÓRÓWEST-CREE RÓMEDIAL RÓFEÔAAIÔIÕIÔOÕOÔAÕAÔWAA
ÓWEST-CREE FWAAÓFÓTHEÓN-CREE THEÓTHIÓN-CREE THIÓTHIIÓN-CREE THIIÓTHOÖOÕAÖAÕWAAÓWEST-CREE THWAAÓTH
ÔTHEÖIÖOÖAÖÔYEÕIÕOÕAÓNUNAVIK HEÜIÝIÜOÝOÜAÝAÜØUT HÓHKÓQAAIÔIÕIÔOÕOÔAÕAÔÓTLHEÖIÖOÖAÓWEST-CREE REÞIÞO
ÞAÓNGAAIÕIÖIÕOÖOÕAÖAÕÔNGÓSAYISI SHEÜIÜOÜAÓWOODS-CREE THEàIàOàAàÓLHIÖIÕOÖOÕAÖAÕÓTH-CREE THEÝIÞIÝOÞO
ÝAÞAÝÓAIVILIK BÓBLACKFOOT EÝIÝOÝAÝWEÞIÞOÞAÝNEÞIÞOÞAÝKEÞIÞOÞAÓSAYISI HEÛIÛOÛAÓCARRIER GHUÝOÝEÞEÝIÝA
ÛRUÜOÜEÝEÜIÜAÛWUÜOÜEÝEÜIÜAÛHWUÝOÝEÞEÝIÝAÛTHUÝOÝEÞEÝIÝAÜTUÝOÝEÞEÝIÝAÛPUÜOÜEÝEÜIÜAÜÛGUÜOÜEÝEÜIÜAÛKHU
ÝOÝEÞEÝIÝAÜKUÝOÝEÞEÝIÝAÝÛNUÜOÜEÝEÜIÜAÛMUÜOÜEÝEÜIÜAÛYUÜOÜEÝEÜIÜAÛJUÓSAYISI JUÓCARRIER JOÜEÝEÜI
ÓSAYISI JIÓCARRIER JAÜJUÝOÝEÞEÝIÝAÛLUÜOÜEÝEÜIÜAÛDLUÝOÝEÞEÝIÝAÛLHUÝOÝEÞEÝIÝAÛTLHUÞOÞEßEÞIÞAÝUÝOÝEÞE
ÝIÝAÛZUÜOÜEÝEÜIÜAÜÛINITIAL ZÛDZUÝOÝEÞEÝIÝAÛSUÜOÜEÝEÜIÜAÜHUÝOÝEÞEÝIÝAÝÛTSUÝOÝEÞEÝIÝAÛCHUÝOÝEÞEÝIÝA
ÛTTSUÞOÞEßEÞIÞAÔHI kÓFULL STOPÓQAIÓNGAIÔNGI×IÖO×OÖA×AÓWOODS-CREE THWEEáIâIáOâOáAâAÞFINAL TH
ÓBLACKFOOT WÀOGHAM SPACE MARKÆvBEITHÍLUISÍFEARNÍSAILÍNIONÍUATHÍDAIRÍTINNEÍCOLLÎEIRTÍMUINÍGORT
ÍNGEADALÍSTRAIFÍRUISÍAILMÍONNÍURÍEADHADHÍIODHADHÍEABHADHÍORÍUILLEANNÍIFINÍEAMHANCHOLLÍPEITH
ÆFEATHER MARKÆREVERSED FEATHER MARK=16a0ÀRUNICbFEHU FEOH FE FÍVÍURUZ UR UÍYRÎÍW
ÍTHURISAZ THURS THORNÍETHÍANSUZ AÍOS OÍAC AÎESCÍLONG-BRANCH-OSS OÍSHORT-TWIG-OSS OÍOÎEÎN
ÍRAIDO RAD REID RÍKAUNAÍCENÍKAUN KÍGÍENGÍGEBO GYFU GÎARÍWUNJO WYNN WÍHAGLAZ HÏEGL H
ÍLONG-BRANCH-HAGALL HÍSHORT-TWIG-HAGALL HÍNAUDIZ NYD NAUD NÍSHORT-TWIG-NAUD NÍDOTTED-N
ÍISAZ IS ISS IÍEÍJERAN JÍGERÍLONG-BRANCH-AR AEÍSHORT-TWIG-AR AÍIWAZ EOHÍPERTHO PEORTH P
ÍALGIZ EOLHXÍSOWILO SÎIGEL LONG-BRANCH-SOL SÎHORT-TWIG-SOL SÍCÍZÍTIWAZ TIR TYR TÍSHORT-TWIG-TYR T
ÍDÍBERKANAN BEORC BJARKAN BÍSHORT-TWIG-BJARKAN BÍDOTTED-PÍOPEN-PÍEHWAZ EH EÍMANNAZ MAN M
ÍLONG-BRANCH-MADR MÍSHORT-TWIG-MADR MÍLAUKAZ LAGU LOGR LÍDOTTED-LÍINGWAZÐÍDAGAZ DAEG D
ÍOTHALAN ETHEL OÍEARÍIORÍCWEORTHÎALCÎEALCÍSTANÍLONG-BRANCH-YRÍSHORT-TWIG-YRÍICELANDIC-YRÍQÍX
ÆSINGLE PUNCTUATIONÆMULTIPLE PUNCTUATIONÆCROSS PUNCTUATIONÆARLAUG zÆTVIMADUR zÆBELGTHOR zÆvKÍSHÍOO
ÍFRANKS CASKET OSÛISÛEHÛACÜESC=1700ÀTAGALOGbAÏIÏUÏKAÏGAÏNGAÏTAÏDAÏNAÏPAÏBAÏMAÏYAÏRAÏLAÏWAÏSAÏHA
Èyk IÓUÈk VIRAMAÍPAMUDPOD=171fÈvARCHAIC RAÀHANUNOObAÏIÏUÏKAÏGAÏNGAÏTAÏDAÏNAÏPAÏBAÏMAÏYAÏRAÏLAÏWA
ÏSAÏHAÈyk IÓUÈk PAMUDPODÀPHILIPPINE SINGLE PUNCTUATIONËnPUNCTUATION=1740ÀBUHIDbAÍIÍUÍKAÍGAÍNGAÍTA
ÍDAÍNAÍPAÍBAÍMAÍYAÍRAÍLAÍWAÍSAÍHAÆyk IÑU=1760ÀTAGBANWAbAÐIÐUÐKAÐGAÐNGAÐTAÐDAÐNAÐPAÐBAÐMAÐYA
=176eÐLAÐWAÐSA=1772Éyk IÔU=1780ÀKHMERbKAÎHAÎOÎHOÍNGOÍCAÎHAÎOÎHOÍNYOÍDAÍTTHAÍDOÍTTHOÍNNOÍTAÎHAÎOÎHO
ÍNOÍBAÍPHAÎOÎHOÍMOÍYOÍROÍLOÍVOÍSHAÎSOÎAÍHAÍLAÍQAÆINDEPENDENT yQAQÚAÙIÚIÙUÚKÚUÛVØRYÚYØLYÚYØQEÙAI
ÙOO TYPE ONEáTWOÙAUÆyINHERENT AQÖAÌk AAÑIÒIÑYÒYÑUÒUÒAÑOEÑYAÑIEÑEÑAEÒIÑOOÑAUÆk NIKAHITËREAHMUK
ËYUUKALEAPINTUËMUUSIKATOANËTRIISAPËBANTOCËROBATËTOANDAKHIATËKAKABATËAHSDAËSAMYOK SANNYAËVIRIAM
ËCOENGËBATHAMASATËKHANËBARIYOOSANËCAMNUC PII KUUHËLEK TOOËBEYYALËPHNAEK MUANËKOOMUUT
ÆCURRENCY z RIELÆk AVAKRAHASANYAÌTTHACAN=17e0ÆDIGIT ZEROÌONEÌTWOÍHREEÌFOURÍIVEÌSIXÍEVENÌEIGHTÌNINE
=17f0Æz LEK ATTAK SON×MUOY×PII×BEIØUON×PRAMÛ-MUOYÜPIIÜBEIÝUON=1800ÀMONGOLIAN BIRGAÊELLIPSISÊCOMMA
ÊFULL STOPÊCOLONÊFOUR DOTSÊTODO SOFT HYPHENÊSIBE SYLLABLE BOUNDARY MARKERÊMANCHU COMMAÑFULL STOP
ÊNIRUGUÊFREE VARIATION SELECTOR ONEâTWOãHREEÊySEPARATORÊFREE VARIATION SELECTOR FOURÊDIGIT ZERO
ÐONEÐTWOÑHREEÐFOURÑIVEÐSIXÑEVENÐEIGHTÐNINE=1820ÊvAÑEÑIÑOÑUÑOEÑUEÑEEÑNAÑANGÑBAÑPAÑQAÑGAÑMAÑLAÑSAÒHA
ÑTAÑDAÑCHAÑJAÑYAÑRAÑWAÑFAÑKAÒHAÑTSAÑZAÑHAAÑZRAÑLHAÑZHIÑCHIÑTODO LONG ykÖEÖIÖOÖUÖOEÖUEÖANGÖBAÖPAÖQA
ÖGAÖMAÖTAÖDAÖCHAÖJAÖTSAÖYAÖWAÖKAÖGAAÖHAAÖJIAÖNIAÖDZAÑSIBE EÖI×YÖUE×ÖANGÖKAÖGAÖHAÖPAÖSHAÖTAÖDAÖJA
ÖFAÖGAAÖHAAÖTSAÖZAÖRAAÖCHAÖZHAÑMANCHU IØKAØRAØFAØZHAÑCHAaTWO DOTS=1880ÑALI GALI ANUSVARA ONE
ÚVISARGA ONEÚDAMARUÚUBADAMAÚINVERTED UBADAMAÚBALUDAÚTHREE BALUDAÚAÚIÚKAÚNGAÚCAÚTTAÜHAÚDDAÚNNAÚTA
ÚDAÚPAÛHAÚSSAÚZHAÛAÚAHÑTODO ALI GALI TAßZHAÑMANCHU ALI GALI GHAáNGAáCAáJHAáTTAáDDHAáTAáDHAáSSAáCYA
áZHAâAÑALI GALI HALF UßYAÑMANCHU ALI GALI BHAÑALI GALI DAGALGAÑMANCHU ALI GALI LHA
=18b0ÀCANADIAN SYLLABICS OYÓAYÔAYÓWAYÓPOYÔAYÔWOYÓTAYÓKAYÔWAYÓMAYÓNOYÔAYÓLAYÓSOYÔAYÔHOYÕAYÕWOYÓYOY
ÔAYÓRAYÓNWIÓOJIBWAY NWIÓNWIIÓOJIBWAY NWIIÓNWOÓOJIBWAY NWOÓNWOOÓOJIBWAY NWOOÓRWEEÕIÖIÕOÖOÕA
ÓOJIBWAY PÛTÛKÛCÛMÛNÛSÜHÓEASTERN WÓWESTERN WÓFINAL d RINGÙRAISED DOTÓR-CREE RWEÓWEST-CREE LOOÞAA
ÓTHWEÖAÔTHWEÖOOÖAAÔLHWEÖOOÓSAYISI SHWEÜOOÚHOOÓCARRIER GWUÛDENE GEEÛGAAÜWAÓSAYISI JUUÓCARRIER JWA
ÓBEAVER DENE LßRÓCARRIER DENTAL S=1900ÀLIMBU VOWEL-CARRIER LETTERÆvKAÎHAÍGAÎHAÍNGAÍCAÎHAÍJAÎHAÍYAN
ÍTAÎHAÍDAÎHAÍNAÍPAÎHAÍBAÎHAÍMAÍYAÍRAÍLAÍWAÍSHAÎSAÎAÍHAÍGYANÍTRA=1920Æyk AÑIÑUÑEEÑAIÑOOÑAUÑEÑO
ÆSUBJOINEDbYA×RA×WA=1930ÇMALLbKAÓNGAÓANUSVARAÓTAÓNAÓPAÓMAÓRAÓLAÇIGN MUKPHRENGËKEMPHRENGËSA-I
=1940ËLOO=1944ÆEXCLAMATION MARKÆQUESTION MARKÆDIGIT ZEROÌONEÌTWOÍHREEÌFOURÍIVEÌSIXÍEVENÌEIGHTÌNINE
ÀTAI LEbKAÎXAÎNGAÎTSAÎSAÎYAÎTAÏHAÎLAÎPAÏHAÎMAÎFAÎVAÎHAÎQAÎKHAÎTSHAÎNAÎAÎIÎEEÏHÎUÎOOÏÎUEÎEÎAUEÏI
=1970ÎTONE-2Ó3Ó4Ó5Ó6=1980ÀNEW TAI LUEbHIGH QAÓLOW QAÓHIGH KAØXAØNGAÓLOW KA×XA×NGAÓHIGH TSAØSAØYA
ÓLOW TSA×SA×YAÓHIGH TAÙHAØNAÓLOW TAØHA×NAÓHIGH PAÙHAØMAÓLOW PAØHA×MAÓHIGH FAØVAØLAÓLOW FA×VA×LA
ÓHIGH HAØDAØBAÓLOW HA×DA×BAÓHIGH KVAØXVAÓLOW KVA×XVAÓHIGH SUAÓLOW SUA=19b0Ìyk ySHORTENER×AA×II×UØU
×E×AE×OØA×UE×AYØAY×UY×OYØAY×UEY×IYÌvFINAL VÙNGÚÙMÙKÙDÙBÌTONE MARK-1Ö2=19d0ÌDIGIT ZEROÒONEÒTWOÓHREE
ÒFOURÓIVEÒSIXÓEVENÒEIGHTÒNINEÌTHAM DIGIT ONE=19deÌk LAEÔVÀKHMER z PATHAMASATÍMUOY KOETÍPII KOET
ÍBEI KOETÎUON KOETÍPRAM KOETÑ-MUOY KOETÒPII KOETÒBEI KOETÓUON KOETÍDAP KOETÐ-MUOY KOETÑPII KOET
ÑBEI KOETÒUON KOETÑPRAM KOETÍTUTEYASATÍMUOY ROCÍPII ROCÍBEI ROCÎUON ROCÍPRAM ROCÑ-MUOY ROCÒPII ROC
ÒBEI ROCÓUON ROCÍDAP ROCÐ-MUOY ROCÑPII ROCÑBEI ROCÒUON ROCÑPRAM ROCÀBUGINESEbKAÐGAÐNGAÒKAÐPAÐBAÐMA
ÑPAÐTAÐDAÐNAÑRAÐCAÐJAÐNYAÒCAÐYAÐRAÐLAÐVAÐSAÐAÐHAÉyk IÔUÔEÔOÔAE=1a1eÉPALLAWAÉEND OF SECTION
ÀTAI THAMbHIGH KAÖHAÖXAÐLOW KAÕXAÕHAÐNGAÐHIGH CAÖHAÐLOW CAÔSAÔCHAÐNYAÐRATAÐHIGH RATHAÐDAÐLOW RATHA
ÐRANAÐHIGH TAÖHAÐLOW TAÕHAÐNAÐBAÐHIGH PAÖHAÕFAÐLOW PAÔFAÔPHAÐMAÐLOW YAÐHIGH YAÐRAÑUEÐLAÑUEÐWA
ÐHIGH SHAÖSAÖAÕHAÐLLAÐAÐLOW HAÐIÑIÐUÑUÐEEÐOOÐLAEÐGREAT SAÉCONSONANT k MEDIAL RAßLAØLA TANG LAI
Ék MAI KANG LAIÉCONSONANT k FINAL NGAØLOW PAØHIGH RATHA OR LOW PAØMAØBAØSA=1a60Ék SAKOTÉyk A
ÔMAI SATÔAAÔTALL AAÔIÕIÔUEÕUEÕÕUÔOÕAoÕYÔEÔAEÔOOÔAIÔTHAM AIÔOAlÉk MAI KANGÎTONE-1Ó2ÎKHUEN TONE-3Ù4
Ù5ÎRA HAAMÎMAI SAMÎKHUEN-LUE KARAN=1a7fÉCOMBINING CRYPTOGRAMMIC DOTÉHORA DIGIT ZEROÔONEÔTWOÕHREE
ÔFOURÕIVEÔSIXÕEVENÔEIGHTÔNINE=1a90ÉTHAM DIGIT ZEROÔONEÔTWOÕHREEÔFOURÕIVEÔSIXÕEVENÔEIGHTÔNINE
=1aa0Ék WIANGÓWAAKÎSAWANÎKEOWÎHOYÎDOKMAIÎREVERSED ROTATED RANAÎMAI YAMOKÎKAANÒKUUÎSATKAANÕKUUÎHANG
ÎCAANG=1ab0ÀCOMBINING DOUBLED CIRCUMFLEX ACCENTËIAERESIS-RINGÊINFINITYÊDOWNWARDS gÊTRIPLE DOTÊX-Xo
ÊWIGGLY LINEoÊOPEN MARKoÊnOPEN MARKoÊLIGHT CENTRALIZATION woÊSTRONG CENTRALIZATION woÊPARENTHESESl
ÊnPARENTHESESlÊPARENTHESESoÖOVERLAYÊLATIN dbWoÝTURNED WoËEFT PARENTHESISl LEFTÊm PARENTHESISl m
ÊpPARENTHESISo LEFTÊm PARENTHESISo mÊSQUARE BRACKETSlÊNUMBER klÊINVERTED nARCHlÊPLUS klÊnPLUS kl
ÛBELOWÊTRIPLE ACUTE ACCENTÊLATIN dbINSULAR GåRåT=1b00ÀBALINESE k ULU RICEMÒCANDRAÎCECEKÎSURANG
ÎBISAHÉvAKARAÕ TEDUNGÐIKARAÕ TEDUNGÐUKARAÕ TEDUNGÐRA REPA× TEDUNGÐLA LENGAØ TEDUNGÐEKARAÐAIKARA
ÐOKARAÕ TEDUNGÐKAÒ MAHAPRANAÐGAÒ GORAÐNGAÐCAÒ LACAÐJAÒ JERAÐNYAÐTA LATIKÓMURDA MAHAPRANA
ÐDA MURDA ALPAPRANAÙMAHAPRANAÐNA RAMBATÐTAÒ TAWAÐDAÒ MADUÐNAÐPAÒ KAPALÐBAÒ KEMBANGÐMAÐYAÐRAÐLAÐWA
ÐSA SAGAÕPAÒÐHAÉk REREKANÉyk TEDUNGÔULU× SARIÔSUKUØ ILUTÔRA REPAÛ TEDUNGÔLA LENGAÜ TEDUNGÔTALING
Ú REPAÛTEDUNGÛREPA TEDUNGÔPEPETÙ TEDUNGÉADEG ADEGÉvKAF SASAKÑHOT SASAKÐTZIR SASAKÐEF SASAK
ÐVE SASAKÐZAL SASAKÐASYURA SASAKÑRCHAIC JNYA=1b50ÉDIGIT ZEROÏONEÏTWOÐHREEÏFOURÐIVEÏSIXÐEVENÏEIGHT
ÏNINEÉPANTIËMADAÉWINDUÉCARIK PAMUNGKAHÏSIKIÏPARERENÉPAMENENGÉMUSICAL z DONGÙENGÙUNGÙANGÜ SURANG
ÙINGÙAENGÙEUNGÙAINGÚNG GEDEØCOMBINING TEGEHâENDEPâKEMPULæLIâJEGOGANâKEMPULaJEGOGANæLIaJEGOGAN
âBENDEâGONGØm-HAND OPEN DUGéAGãCLOSED TUKëAKØLEFT-HAND OPEN PANGèUNGâCLOSED PLAKëUKâOPEN PING
ÉPANTI LANTANGËMADA LANTANG=1b80ÀSUNDANESE k PANYECEKÒGLAYARÓWISADÊvAÑIÑUÑAEÑOÑEÒUÑKAÑQAÑGAÑNGAÑCA
ÑJAÑZAÑNYAÑTAÑDAÑNAÑPAÑFAÑVAÑBAÑMAÑYAÑRAÑLAÑWAÑSAÑXAÑHAÊCONSONANT k PAMINGKALÛNYAKRAÝIKU
Êyk PANGHULUØYUKUØAELAENGØOLONG×MEPET×NEULEUNGÊk PAMAAEHÏVIRAMAÊCONSONANT k PASANGAN MAâWAÊvKHA
ÑSYAÊDIGIT ZEROÐONEÐTWOÑHREEÐFOURÑIVEÐSIXÑEVENÐEIGHTÐNINEÊAVAGRAHAÊvREUÑLEUÑBHAÑFINAL K×MÀBATAKbA
ÍSIMALUNGUN AÍHAÍSIMALUNGUN HAÍMANDAILING HAÍBAÍKARO BAÍPAÍSIMALUNGUN PAÍNAÍMANDAILING NAÍWA
ÍSIMALUNGUN WAÍPAKPAK WAÍGAÍSIMALUNGUN GAÍJAÍDAÍRAÍSIMALUNGUN RAÍMAÍSIMALUNGUN MAÎOUTHERN TA
ÍNORTHERN TAÍSAÎIMALUNGUN SAÍMANDAILING SAÍYAÍSIMALUNGUN YAÍNGAÍLAÍSIMALUNGUN LAÍNYAÍCAÍNDAÍMBAÍI
ÍUÆk TOMPIÆyk EÑPAKPAK EÑEEÑIÑKARO IÑOÑKARO OÑUÒ FOR SIMALUNGUN SAÆCONSONANT k NGÕHÆPANGOLAT
ÉONGONAN=1bfcÆz BINDU NA METEKÓPINARBORASÓJUDULÓPANGOLATÀLEPCHAbKAÏLAÏHAÎGAÏLAÎNGAÎCAÏHAÎJAÎNYAÎTA
ÏHAÎDAÎNAÎPAÏLAÏHAÎFAÏLAÎBAÏLAÎMAÏLAÎTSAÐHAÎDZAÎYAÎRAÎLAÎHAÏLAÎVAÎSAÏHAÎWAÎAÇSUBJOINEDbYAØRAÇyk AA
ÒIÒOÓOÒUÓUÒEÇCONSONANT k KÖMÖLÖNÖPÖRÖTÖNYIN-DOÖKANGÇk RANÌNUKTA=1c3bÇPUNCTUATION TA-ROL
ÓNYET THYOOM TA-ROLÓCER-WAÓTSHOOK CER-WAÙÇDIGIT ZEROÍONEÍTWOÎHREEÍFOURÎIVEÍSIXÎEVENÍEIGHTÍNINE
=1c4dÇvTTAÐHAÎDDAÀOL CHIKI DIGIT ZEROÏONEÏTWOÐHREEÏFOURÐIVEÏSIXÐEVENÏEIGHTÏNINEÉvLAÐATÑGÑNGÑLÐLAA
ÐAAKÒJÒMÒWÐLIÐISÑHÑNYÑRÐLUÐUCÑDÑNNÑYÐLEÐEPÑDDÑNÑRRÐLOÐOTTÑBÑVÑHÉMU TTUDDAGÉGAAHLAA TTUDDAAG
ÉMU-GAAHLAA TTUDDAAGÉRELAAÉPHAARKAAÉAHADÉPUNCTUATION MUCAADÕnMUCAADÀCYRILLIC dbROUNDED VE
ÖLONG-LEGGED DEÖNg OÖWIDE ESÖTALL TE×HREE-LEGGED TE×ALL HARD kÛYATÖUNBLENDED UK
=1c90ÀGEORGIAN MTAVRULI cbANáBANáGANáDONáENáVINáZENáTANáINáKANáLASáMANáNARáONáPARáZHARáRAEáSANáTAR
áUNáPHARáKHARáGHANáQARáSHINáCHINâANáJILáCILâHARáXANáJHANáHAEâEâIEáWEáHARâOEáFIáYNáELIFIáTURNED GAN
áAIN=1cbdâENáHARD káLABIAL kÀSUNDANESE PUNCTUATION BINDU SURYAÜPANGLONGÝURNAMAÜCAKRAÜLEU SATANGA
ÜKA SATANGAÜDA SATANGAÜBA SATANGA=1cd0ÀVEDIC TONE KARSHANAËSHARAËPRENKHAÆk NIHSHVASA
ËYAJURVEDIC MIDLINE SVARITAÆTONE YAJURVEDIC AGGRAVATED INDEPENDENT SVARITAÖINDEPENDENT SVARITA
ÖKATHAKA INDEPENDENT SVARITAËCANDRAoËYAJURVEDIC KATHAKA INDEPENDENT SVARITA SCHROEDERËnSVARITA
ËTRIPLE SVARITAËKATHAKA ANUDATTAËDOToËTWO DOTSoÌHREE DOTSoËRIGVEDIC KASHMIRI INDEPENDENT SVARITA
ËATHARVAVEDIC INDEPENDENT SVARITAÆk VISARGA SVARITAÓUDATTAËREVERSED VISARGA UDATTA
ËVISARGA ANUDATTAËREVERSED VISARGA ANUDATTAËVISARGA UDATTAaTAILÓANUDATTAaTAIL
ËANUSVARA ANTARGOMUKHAÔBAHIRGOMUKHAÔVAMAGOMUKHAßaTAILËTIRYAKËHEXIFORM LONG ANUSVARAËLONG ANUSVARA
ËRTHANG LONG ANUSVARAËANUSVARA UBHAYATO MUKHAÌRDHAVISARGAËROTATED ARDHAVISARGAÆTONE CANDRAl
Æk JIHVAMULIYAËUPADHMANIYAËATIKRAMAÆTONE RINGlËnRINGlÆk nANUSVARA ANTARGOMUKHA=1d00ÀLATINbd c AÜE
ÆdbTURNED AEÆvd c BARRED BÛCÛDÛETHÜÆdbTURNED OPEN EÚIÆvd c JÛKÛLawÛMÛREVERSED NÛOÜPEN O
ÆdbSIDEWAYS OÝPEN OÝawÓTURNED OEÆvd c OUÆdbTOP HALF OÓBOTTOM HALF OÆvd c PÛREVERSED RÛTURNED RÜÛU
ÆdbSIDEWAYS UÜDIAERESIZED UÜTURNED MÆvd c VÛWÛZÛEZHÍVOICED LARYNGEAL SPIRANTÍAINÀGREEKbd c GAMMA
ÛLAMDAÛPIÛRHOÛPSIÀCYRILLICbd c ELÀMODIFIERbc AÙEØBÙARRED BØDØEØREVERSED EØGØHØIØJØKØLØMØN
ØREVERSED NØOÙUØPØRØTØUØWÐd AÖTURNED AÖALPHAÖTURNED AEÖBÖDÖEÖSCHWAÖOPEN EÖTURNED OPEN EÖGÖTURNED I
ÖKÖMÖENGÖO×PEN OÖTOP HALF OÖBOTTOM HALF OÖPÖTÖUÖSIDEWAYS UÖTURNED MÖVÖAINÖBETAÖGREEK GAMMAÖDELTA
ÖGREEK PHIÖCHIÀLATIN SUBSCRIPT dbIÝRÝUÝVÀGREEK SUBSCRIPT dbBETAÝGAMMAÝRHOÝPHIÝCHIÀLATIN dbUE
ÓBaMIDDLE TILDEÓDaMIDDLE TILDEÓFaMIDDLE TILDEÓMaMIDDLE TILDEÓNaMIDDLE TILDEÓPaMIDDLE TILDE
ÓRaMIDDLE TILDEÚFISHHOOKfMIDDLE TILDEÓSaMIDDLE TILDEÓTaMIDDLE TILDEÓZaMIDDLE TILDEÓTURNED G
ÀMODIFIERbCYRILLIC ENÀLATIN dbINSULAR GÓTHaSTRIKETHROUGHÌcbIawÌvIOTAawÓPawÌcbUawÌvUPSILONaw
ÓBaPALATAL HOOKÓDaPALATAL HOOKÓFaPALATAL HOOKÓGaPALATAL HOOKÓKaPALATAL HOOKÓLaPALATAL HOOK
ÓMaPALATAL HOOKÓNaPALATAL HOOKÓPaPALATAL HOOKÓRaPALATAL HOOKÓSaPALATAL HOOKÓESHaPALATAL HOOK
ÓVaPALATAL HOOKÓXaPALATAL HOOKÓZaPALATAL HOOKÓAaRETROFLEX HOOKÔLPHAaRETROFLEX HOOKÓDaHOOKfTAIL
ÓEaRETROFLEX HOOKÓOPEN EaRETROFLEX HOOKÓREVERSED OPEN EaRETROFLEX HOOKÓSCHWAaRETROFLEX HOOK
ÓIaRETROFLEX HOOKÓOPEN OaRETROFLEX HOOKÓESHaRETROFLEX HOOKÓUaRETROFLEX HOOKÓEZHaRETROFLEX HOOK
ÀMODIFIERbd TURNED ALPHAÖC×aCURLÖETHÖREVERSED OPEN EÖFÖDOTLESS JawÖSCRIPT GÖTURNED HÖIaw×OTAÖc I
ßawÖJaCROSSED-TAILÖLaRETROFLEX HOOKÝPALATAL HOOKÖc LÖMaHOOKÖTURNED MaLONG LEGÖNapHOOK
ÝRETROFLEX HOOKÖc NÖBARRED OÖPHIÖSaHOOKÖESHÖTaPALATAL HOOKÖU BAR×PSILONÖc UÖVaHOOKÖTURNED VÖZ
×aRETROFLEX HOOKÝCURLÖEZHÖTHETAÀCOMBINING DOTTED GRAVE ACCENTÑACUTE ACCENTÊSNAKEoËUSPENSION MARK
ÊMACRON-ACUTEÊGRAVE-MACRONÊMACRON-GRAVEÊACUTE-MACRONÊGRAVE-ACUTE-GRAVEÊACUTE-GRAVE-ACUTE
ÊLATIN dbRoÊBREVE-MACRONÊMACRON-BREVEÊnCIRCUMFLEXlÊOGONEKlÊZIGZAGoÊISoÊURlËSl
ÊLATIN dbFLATTENED OPEN AlÝAEÞOÞVÝC CEDILLAÝINSULAR DÝETHÝGÐvd c GÐdbKÝLÐvd c LåMÐdbNÐvd c NåR
ÐdbR ROTUNDAÝSÝLONG SÝZÝALPHAÝBÞETAÝSCHWAÝFÝLanMIDDLE TILDEÝOaLIGHT CENTRALIZATION wÝPÝESH
ÝUaLIGHT CENTRALIZATION wÝWÝAaDIAERESISÝOaDIAERESISÝUaDIAERESISÊUP TACKlÊKAVYKAl m×LEFTÊDOTl LEFT
ÊWIDE INVERTED BRIDGEoÊDOTo LEFTËELETION MARKËOUBLE INVERTED BREVEoÊALMOST EQUAL TOoÊpgHEADl
Êm gHEADfDOWN gHEADoÀLATIN cbAaRINGoÆdbAaRINGoÆcbBaDOTlÆdbBaDOTlÆcbBaDOToÆdbBaDOToÆcbBaLINEo
ÆdbBaLINEoÆcbCaCEDILLAfACUTEÆdbCaCEDILLAfACUTEÆcbDaDOTlÆdbDaDOTlÆcbDaDOToÆdbDaDOToÆcbDaLINEo
ÆdbDaLINEoÆcbDaCEDILLAÆdbDaCEDILLAÆcbDaCIRCUMFLEXoÆdbDaCIRCUMFLEXoÆcbEaMACRONfGRAVE
ÆdbEaMACRONfGRAVEÆcbEaMACRONfACUTEÆdbEaMACRONfACUTEÆcbEaCIRCUMFLEXoÆdbEaCIRCUMFLEXoÆcbEaTILDEo
ÆdbEaTILDEoÆcbEaCEDILLAfBREVEÆdbEaCEDILLAfBREVEÆcbFaDOTlÆdbFaDOTlÆcbGaMACRONÆdbGaMACRONÆcbHaDOTl
ÆdbHaDOTlÆcbHaDOToÆdbHaDOToÆcbHaDIAERESISÆdbHaDIAERESISÆcbHaCEDILLAÆdbHaCEDILLAÆcbHaBREVEo
ÆdbHaBREVEoÆcbIaTILDEoÆdbIaTILDEoÆcbIaDIAERESISfACUTEÆdbIaDIAERESISfACUTEÆcbKaACUTEÆdbKaACUTE
ÆcbKaDOToÆdbKaDOToÆcbKaLINEoÆdbKaLINEoÆcbLaDOToÆdbLaDOToÆcbLaDOTofMACRONÆdbLaDOTofMACRONÆcbLaLINEo
ÆdbLaLINEoÆcbLaCIRCUMFLEXoÆdbLaCIRCUMFLEXoÆcbMaACUTEÆdbMaACUTEÆcbMaDOTlÆdbMaDOTlÆcbMaDOToÆdbMaDOTo
ÆcbNaDOTlÆdbNaDOTlÆcbNaDOToÆdbNaDOToÆcbNaLINEoÆdbNaLINEoÆcbNaCIRCUMFLEXoÆdbNaCIRCUMFLEXo
ÆcbOaTILDEfACUTEÆdbOaTILDEfACUTEÆcbOaTILDEfDIAERESISÆdbOaTILDEfDIAERESISÆcbOaMACRONfGRAVE
ÆdbOaMACRONfGRAVEÆcbOaMACRONfACUTEÆdbOaMACRONfACUTEÆcbPaACUTEÆdbPaACUTEÆcbPaDOTlÆdbPaDOTlÆcbRaDOTl
ÆdbRaDOTlÆcbRaDOToÆdbRaDOToÆcbRaDOTofMACRONÆdbRaDOTofMACRONÆcbRaLINEoÆdbRaLINEoÆcbSaDOTlÆdbSaDOTl
ÆcbSaDOToÆdbSaDOToÆcbSaACUTEfDOTlÆdbSaACUTEfDOTlÆcbSaCARONfDOTlÆdbSaCARONfDOTlÆcbSaDOTofDOTl
ÆdbSaDOTofDOTlÆcbTaDOTlÆdbTaDOTlÆcbTaDOToÆdbTaDOToÆcbTaLINEoÆdbTaLINEoÆcbTaCIRCUMFLEXo
ÆdbTaCIRCUMFLEXoÆcbUaDIAERESISoÆdbUaDIAERESISoÆcbUaTILDEoÆdbUaTILDEoÆcbUaCIRCUMFLEXo
ÆdbUaCIRCUMFLEXoÆcbUaTILDEfACUTEÆdbUaTILDEfACUTEÆcbUaMACRONfDIAERESISÆdbUaMACRONfDIAERESIS
ÆcbVaTILDEÆdbVaTILDEÆcbVaDOToÆdbVaDOToÆcbWaGRAVEÆdbWaGRAVEÆcbWaACUTEÆdbWaACUTEÆcbWaDIAERESIS
ÆdbWaDIAERESISÆcbWaDOTlÆdbWaDOTlÆcbWaDOToÆdbWaDOToÆcbXaDOTlÆdbXaDOTlÆcbXaDIAERESISÆdbXaDIAERESIS
ÆcbYaDOTlÆdbYaDOTlÆcbZaCIRCUMFLEXÆdbZaCIRCUMFLEXÆcbZaDOToÆdbZaDOToÆcbZaLINEoÆdbZaLINEoÓHaLINEo
ÓTaDIAERESISÓWaRINGlÓYaRINGlÓAam HALF RINGÓLONG SaDOTlàIAGONAL wßHIGH wÆcbSHARP SÆdbDELTAÆcbAaDOTo
ÆdbAaDOToÆcbAaHOOKlÆdbAaHOOKlÆcbAaCIRCUMFLEXfACUTEÆdbAaCIRCUMFLEXfACUTEÆcbAaCIRCUMFLEXfGRAVE
ÆdbAaCIRCUMFLEXfGRAVEÆcbAaCIRCUMFLEXfHOOKlÆdbAaCIRCUMFLEXfHOOKlÆcbAaCIRCUMFLEXfTILDE
ÆdbAaCIRCUMFLEXfTILDEÆcbAaCIRCUMFLEXfDOToÆdbAaCIRCUMFLEXfDOToÆcbAaBREVEfACUTEÆdbAaBREVEfACUTE
ÆcbAaBREVEfGRAVEÆdbAaBREVEfGRAVEÆcbAaBREVEfHOOKlÆdbAaBREVEfHOOKlÆcbAaBREVEfTILDEÆdbAaBREVEfTILDE
ÆcbAaBREVEfDOToÆdbAaBREVEfDOToÆcbEaDOToÆdbEaDOToÆcbEaHOOKlÆdbEaHOOKlÆcbEaTILDEÆdbEaTILDE
ÆcbEaCIRCUMFLEXfACUTEÆdbEaCIRCUMFLEXfACUTEÆcbEaCIRCUMFLEXfGRAVEÆdbEaCIRCUMFLEXfGRAVE
ÆcbEaCIRCUMFLEXfHOOKlÆdbEaCIRCUMFLEXfHOOKlÆcbEaCIRCUMFLEXfTILDEÆdbEaCIRCUMFLEXfTILDE
ÆcbEaCIRCUMFLEXfDOToÆdbEaCIRCUMFLEXfDOToÆcbIaHOOKlÆdbIaHOOKlÆcbIaDOToÆdbIaDOToÆcbOaDOToÆdbOaDOTo
ÆcbOaHOOKlÆdbOaHOOKlÆcbOaCIRCUMFLEXfACUTEÆdbOaCIRCUMFLEXfACUTEÆcbOaCIRCUMFLEXfGRAVE
ÆdbOaCIRCUMFLEXfGRAVEÆcbOaCIRCUMFLEXfHOOKlÆdbOaCIRCUMFLEXfHOOKlÆcbOaCIRCUMFLEXfTILDE
ÆdbOaCIRCUMFLEXfTILDEÆcbOaCIRCUMFLEXfDOToÆdbOaCIRCUMFLEXfDOToÆcbOaHORNfACUTEÆdbOaHORNfACUTE
ÆcbOaHORNfGRAVEÆdbOaHORNfGRAVEÆcbOaHORNfHOOKlÆdbOaHORNfHOOKlÆcbOaHORNfTILDEÆdbOaHORNfTILDE
ÆcbOaHORNfDOToÆdbOaHORNfDOToÆcbUaDOToÆdbUaDOToÆcbUaHOOKlÆdbUaHOOKlÆcbUaHORNfACUTEÆdbUaHORNfACUTE
ÆcbUaHORNfGRAVEÆdbUaHORNfGRAVEÆcbUaHORNfHOOKlÆdbUaHORNfHOOKlÆcbUaHORNfTILDEÆdbUaHORNfTILDE
ÆcbUaHORNfDOToÆdbUaHORNfDOToÆcbYaGRAVEÆdbYaGRAVEÆcbYaDOToÆdbYaDOToÆcbYaHOOKlÆdbYaHOOKlÆcbYaTILDE
ÆdbYaTILDEÆcbMIDDLE-WELSH LLÆdbMIDDLE-WELSH LLÆcbMIDDLE-WELSH VÆdbMIDDLE-WELSH VÆcbYaLOOPÆdbYaLOOP
ÀGREEK dbALPHAaPSILIÞDASIAÞPSILIfVARIAÞDASIAfVARIAÞPSILIfOXIAÞDASIAfOXIAÞPSILIfPERISPOMENI
ÞDASIAfPERISPOMENIÆcbALPHAaPSILIàDASIAàPSILIfVARIAàDASIAfVARIAàPSILIfOXIAàDASIAfOXIA
àPSILIfPERISPOMENIàDASIAfPERISPOMENIÆdbEPSILONaPSILIàDASIAàPSILIfVARIAàDASIAfVARIAàPSILIfOXIA
àDASIAfOXIA=1f18ÆcbEPSILONaPSILIâDASIAâPSILIfVARIAâDASIAfVARIAâPSILIfOXIAâDASIAfOXIA
=1f20ÆdbETAaPSILIÜDASIAÜPSILIfVARIAÜDASIAfVARIAÜPSILIfOXIAÜDASIAfOXIAÜPSILIfPERISPOMENI
ÜDASIAfPERISPOMENIÆcbETAaPSILIÞDASIAÞPSILIfVARIAÞDASIAfVARIAÞPSILIfOXIAÞDASIAfOXIA
ÞPSILIfPERISPOMENIÞDASIAfPERISPOMENIÆdbIOTAaPSILIÝDASIAÝPSILIfVARIAÝDASIAfVARIAÝPSILIfOXIA
ÝDASIAfOXIAÝPSILIfPERISPOMENIÝDASIAfPERISPOMENIÆcbIOTAaPSILIßDASIAßPSILIfVARIAßDASIAfVARIA
ßPSILIfOXIAßDASIAfOXIAßPSILIfPERISPOMENIßDASIAfPERISPOMENIÆdbOMICRONaPSILIàDASIAàPSILIfVARIA
àDASIAfVARIAàPSILIfOXIAàDASIAfOXIA=1f48ÆcbOMICRONaPSILIâDASIAâPSILIfVARIAâDASIAfVARIAâPSILIfOXIA
âDASIAfOXIA=1f50ÆdbUPSILONaPSILIàDASIAàPSILIfVARIAàDASIAfVARIAàPSILIfOXIAàDASIAfOXIA
àPSILIfPERISPOMENIàDASIAfPERISPOMENI=1f59ÆcbUPSILONaDASIA=1f5bçfVARIA=1f5dìOXIA=1f5fìPERISPOMENI
ÆdbOMEGAaPSILIÞDASIAÞPSILIfVARIAÞDASIAfVARIAÞPSILIfOXIAÞDASIAfOXIAÞPSILIfPERISPOMENI
ÞDASIAfPERISPOMENIÆcbOMEGAaPSILIàDASIAàPSILIfVARIAàDASIAfVARIAàPSILIfOXIAàDASIAfOXIA
àPSILIfPERISPOMENIàDASIAfPERISPOMENIÆdbALPHAaVARIAÞOXIAÓEPSILONaVARIAàOXIAÔTAaVARIAÜOXIA
ÓIOTAaVARIAÝOXIAÓOMICRONaVARIAàOXIAÓUPSILONaVARIAàOXIAÓOMEGAaVARIAÞOXIA
=1f80ÓALPHAaPSILIfYPOGEGRAMMENIÞDASIAfYPOGEGRAMMENIÞPSILIfVARIAfYPOGEGRAMMENI
ÞDASIAfVARIAfYPOGEGRAMMENIÞPSILIfOXIAfYPOGEGRAMMENIÞDASIAfOXIAfYPOGEGRAMMENI
ÞPSILIfPERISPOMENIfYPOGEGRAMMENIÞDASIAfPERISPOMENIfYPOGEGRAMMENIÆcbALPHAaPSILIfPROSGEGRAMMENI
àDASIAfPROSGEGRAMMENIàPSILIfVARIAfPROSGEGRAMMENIàDASIAfVARIAfPROSGEGRAMMENI
àPSILIfOXIAfPROSGEGRAMMENIàDASIAfOXIAfPROSGEGRAMMENIàPSILIfPERISPOMENIfPROSGEGRAMMENI
àDASIAfPERISPOMENIfPROSGEGRAMMENIÆdbETAaPSILIfYPOGEGRAMMENIÜDASIAfYPOGEGRAMMENI
ÜPSILIfVARIAfYPOGEGRAMMENIÜDASIAfVARIAfYPOGEGRAMMENIÜPSILIfOXIAfYPOGEGRAMMENI
ÜDASIAfOXIAfYPOGEGRAMMENIÜPSILIfPERISPOMENIfYPOGEGRAMMENIÜDASIAfPERISPOMENIfYPOGEGRAMMENI
ÆcbETAaPSILIfPROSGEGRAMMENIÞDASIAfPROSGEGRAMMENIÞPSILIfVARIAfPROSGEGRAMMENI
ÞDASIAfVARIAfPROSGEGRAMMENIÞPSILIfOXIAfPROSGEGRAMMENIÞDASIAfOXIAfPROSGEGRAMMENI
ÞPSILIfPERISPOMENIfPROSGEGRAMMENIÞDASIAfPERISPOMENIfPROSGEGRAMMENIÆdbOMEGAaPSILIfYPOGEGRAMMENI
ÞDASIAfYPOGEGRAMMENIÞPSILIfVARIAfYPOGEGRAMMENIÞDASIAfVARIAfYPOGEGRAMMENIÞPSILIfOXIAfYPOGEGRAMMENI
ÞDASIAfOXIAfYPOGEGRAMMENIÞPSILIfPERISPOMENIfYPOGEGRAMMENIÞDASIAfPERISPOMENIfYPOGEGRAMMENI
ÆcbOMEGAaPSILIfPROSGEGRAMMENIàDASIAfPROSGEGRAMMENIàPSILIfVARIAfPROSGEGRAMMENI
àDASIAfVARIAfPROSGEGRAMMENIàPSILIfOXIAfPROSGEGRAMMENIàDASIAfOXIAfPROSGEGRAMMENI
àPSILIfPERISPOMENIfPROSGEGRAMMENIàDASIAfPERISPOMENIfPROSGEGRAMMENIÆdbALPHAaVRACHYÞMACRON
ÞVARIAfYPOGEGRAMMENIÞYPOGEGRAMMENIÞOXIAfYPOGEGRAMMENI=1fb6ÞPERISPOMENIéfYPOGEGRAMMENI
ÆcbALPHAaVRACHYàMACRONàVARIAàOXIAàPROSGEGRAMMENIÆKORONISÆPROSGEGRAMMENIÇSILIÇERISPOMENI
ÆDIALYTIKAfPERISPOMENIÆdbETAaVARIAfYPOGEGRAMMENIÜYPOGEGRAMMENIÜOXIAfYPOGEGRAMMENI=1fc6ÜPERISPOMENI
çfYPOGEGRAMMENIÆcbEPSILONaVARIAâOXIAÖTAaVARIAÞOXIAÞPROSGEGRAMMENIÆPSILIfVARIAÐOXIAÐPERISPOMENI
ÆdbIOTAaVRACHYÝMACRONÝDIALYTIKAfVARIAëOXIA=1fd6ÝPERISPOMENIÝDIALYTIKAfPERISPOMENIÆcbIOTAaVRACHY
ßMACRONßVARIAßOXIA=1fddÆDASIAfVARIAÐOXIAÐPERISPOMENIÆdbUPSILONaVRACHYàMACRONàDIALYTIKAfVARIAîOXIA
ÓRHOaPSILIÜDASIAÓUPSILONaPERISPOMENIàDIALYTIKAfPERISPOMENIÆcbUPSILONaVRACHYâMACRONâVARIAâOXIA
ÕRHOaDASIAÆDIALYTIKAfVARIAÔOXIAÆVARIA=1ff2ÆdbOMEGAaVARIAfYPOGEGRAMMENIÞYPOGEGRAMMENI
ÞOXIAfYPOGEGRAMMENI=1ff6ÞPERISPOMENIéfYPOGEGRAMMENIÆcbOMICRONaVARIAâOXIA×EGAaVARIAàOXIA
àPROSGEGRAMMENIÆOXIAÆDASIA=2000ÀEN QUADÁM QUADÁN SPACEÁM SPACEÀTHREE-PER-EM SPACE
ÀFOUR-PER-EM SPACEÀSIX-PER-EM SPACEÀFIGURE SPACEÀPUNCTUATION SPACEÀTHIN SPACEÀHAIR SPACE
ÀZERO WIDTH SPACEËNON-JOINERËJOINERÀLEFT-TO-m MARKÀm-TO-pMARKÀHYPHENÀNON-BREAKING HYPHEN
ÀFIGURE DASHÀEN DASHÁM DASHÀHORIZONTAL BARÀnt LINEÇLOW LINEÀpSINGLE QUOTATION MARK
Àm SINGLE QUOTATION MARKÀSINGLE LOW-9 QUOTATION MARKÇHIGH-REVERSED-9 QUOTATION MARK
ÀpnQUOTATION MARKÀm nQUOTATION MARKÀnLOW-9 QUOTATION MARKÇHIGH-REVERSED-9 QUOTATION MARKÁAGGER
ÁOUBLE DAGGERÀBULLETÀTRIANGULAR BULLETÀONE DOT LEADERÀTWO DOT LEADERÀHORIZONTAL ELLIPSIS
ÁYPHENATION POINTÀLINE SEPARATORÀPARAGRAPH SEPARATORÀLEFT-TO-m EMBEDDINGÀm-TO-pEMBEDDING
ÀPOP DIRECTIONAL FORMATTINGÀLEFT-TO-m OVERRIDEÀm-TO-pOVERRIDEÀNg NO-BREAK SPACEÀPER MILLE k
ÄTEN THOUSAND kÁRIMEÀnPRIMEÀTRIPLE PRIMEÀREVERSED PRIMEÉnPRIMEÉTRIPLE PRIMEÀCARET
ÀSINGLE LEFT-POINTING ANGLE QUOTATION MARKÇm-POINTING ANGLE QUOTATION MARKÀREFERENCE MARK
ÀnEXCLAMATION MARKÀINTERROBANGÀOVERLINEÀUNDERTIEÀCHARACTER TIEÁARET INSERTION POINTÀASTERISM
ÀHYPHEN BULLETÀFRACTION SLASHÀpSQUARE BRACKETaQUILLÀm SQUARE BRACKETaQUILLÀnQUESTION MARK
ÀQUESTION EXCLAMATION MARKÀEXCLAMATION QUESTION MARKÀTIRONIAN k ETÀREVERSED PILCROW kÀxrBULLET
ÆjBULLETÀLOW ASTERISKÀREVERSED SEMICOLONÀCLOSE UPÀTWO ASTERISKS ALIGNED tLYÀCOMMERCIAL MINUS k
ÀSWUNG DASHÀINVERTED UNDERTIEÀFLOWER PUNCTUATION MARKÀTHREE DOT PUNCTUATIONÀQUADRUPLE PRIME
ÀFOUR DOT PUNCTUATIONÁIVE DOT PUNCTUATIONÀTWO DOT PUNCTUATIONÀFOUR DOT MARKÀDOTTED CROSSÀTRICOLON
Àt FOUR DOTSÀMEDIUM MATHEMATICAL SPACEÀWORD JOINERÀFUNCTION APPLICATIONÀINVISIBLE TIMESÊSEPARATOR
ÊPLUS=2066ÀLEFT-TO-m ISOLATEÀm-TO-pISOLATEÀFIRST STRONG ISOLATEÀPOP DIRECTIONAL ISOLATE
ÀINHIBIT SYMMETRIC SWAPPINGÀACTIVATE SYMMETRIC SWAPPINGÀINHIBIT ARABIC FORM SHAPING
ÀACTIVATE ARABIC FORM SHAPINGÀNATIONAL DIGIT SHAPESÁOMINAL DIGIT SHAPESÀSUPERSCRIPT ZEROÌLATIN dbI
=2074ÌFOURÍIVEÌSIXÍEVENÌEIGHTÌNINEÌPLUS kÌMINUSÌEQUALS kÌpPARENTHESISÌm PARENTHESISÌLATIN dbN
ÂBSCRIPT ZEROÊONEÊTWOËHREEÊFOURËIVEÊSIXËEVENÊEIGHTÊNINEÊPLUS kÊMINUSÊEQUALS kÊpPARENTHESIS
Êm PARENTHESIS=2090ÀLATIN SUBSCRIPT dbAÝEÝOÝXÝSCHWAÝHÝKÝLÝMÝNÝPÝSÝT=20a0ÀEURO-CURRENCY kÀCOLON k
ÁRUZEIRO kÀFRENCH FRANC kÀLIRA kÀMILL kÀNAIRA kÀPESETA kÀRUPEE kÀWON kÀNEW SHEQEL kÀDONG kÀEURO k
ÀKIP kÀTUGRIK kÀDRACHMA kÀGERMAN PENNY kÀPESO kÀGUARANI kÀAUSTRAL kÀHRYVNIA kÀCEDI k
ÀLIVRE TOURNOIS kÀSPESMILO kÀTENGE kÀINDIAN RUPEE kÀTURKISH LIRA kÀNORDIC MARK kÀMANAT kÀRUBLE k
ÀLARI kÀBITCOIN kÀSOM k=20d0ÀCOMBINING pHARPOONlÊm HARPOONlÊLONG t LINE OVERLAY
ÊSHORT t LINE OVERLAYÊANTICLOCKWISE glÊCLOCKWISE glÊpglÊm glÌNG OVERLAYÊCLOCKWISE RING OVERLAY
ÊANTICLOCKWISE RING OVERLAYÊTHREE DOTSlÊFOUR DOTSlÊENCLOSING CIRCLEÔSQUAREÔDIAMOND
ÔCIRCLE BACKSLASHÊpm glÊENCLOSING SCREENÔKEYCAPÔUPWARD POINTING TRIANGLEÊREVERSE SOLIDUS OVERLAY
Ênt w OVERLAYÊANNUITY zÊTRIPLE UNDERDOTÊWIDE BRIDGElÊrg OVERLAYËONG nSOLIDUS OVERLAY
ÊjHARPOONaBARB DOWNWARDSÊrHARPOONaBARB DOWNWARDSÎ goÊm goÊASTERISKl=2100ÀACCOUNT OF
ÁDDRESSED TO THE SUBJECTÀDOUBLE-STRUCK c CÁEGREE CELSIUSÀCENTRE LINE zÁARE OFÂDA UNA
ÀEULER CONSTANTÀSCRUPLEÀDEGREE FAHRENHEITÀSCRIPT d GÇc HÀBLACK-vc HÀDOUBLE-STRUCK c H
ÀPLANCK CONSTANTÏ OVER TWO PIÀSCRIPT c IÀBLACK-vc IÀSCRIPT c LÇd LÀL B BAR zÀDOUBLE-STRUCK c N
ÀNUMERO kÀSOUND RECORDING COPYmÁCRIPT c PÀDOUBLE-STRUCK c PÖQÀSCRIPT c RÀBLACK-vc R
ÀDOUBLE-STRUCK c RÀPRESCRIPTION TAKEÀRESPONSEÀSERVICE MARKÀTELEPHONE kÁRADE MARK kÀVERSICLE
ÀDOUBLE-STRUCK c ZÀOUNCE kÁHM kÀINVERTED OHM kÀBLACK-vc ZÀTURNED GREEK dbIOTAÀKELVIN kÀANGSTROM k
ÀSCRIPT c BÀBLACK-vc CÀESTIMATED zÀSCRIPT d EÇc EÏFÀTURNED c FÀSCRIPT c MÇd OÀALEF zÀBET zÀGIMEL z
ÀDALET zÀINFORMATION SOURCEÀROTATED c QÀFACSIMILE kÀDOUBLE-STRUCK d PIÔGAMMAÎc GAMMAÖPI
ÎN-ARY SUMMATIONÀTURNED SANS-SERIF c GÚLÀREVERSED SANS-SERIF c LÀTURNED SANS-SERIF c Y
ÀDOUBLE-STRUCK ITALIC c DÕd DÛEÛIÛJÀPROPERTY LINEÀTURNED AMPERSANDÀPER kÀAKTIESELSKABÀTURNED d F
Àz FOR SAMARITAN SOURCEÀVULGAR FRACTION ONE SEVENTHÔNINTHÔTENTHÕHIRDÐTWO THIRDSÐONE FIFTH
ÐTWO FIFTHSÑHREE FIFTHSÐFOUR FIFTHSÐONE SIXTHÐFIVE SIXTHSÐONE EIGHTHÐTHREE EIGHTHSÐFIVE EIGHTHS
ÐSEVEN EIGHTHSÀFRACTION NUMERATOR ONEÀROMAN NUMERAL ONEÎTWOÏHREEÎFOURÏIVEÎSIXÏEVENÎEIGHTÎNINEÎTEN
ÎELEVENÎTWELVEÎFIFTYÎONE HUNDREDÎFIVE HUNDREDÎONE THOUSANDÀd ROMAN NUMERAL ONEÔTWOÕHREEÔFOURÕIVE
ÔSIXÕEVENÔEIGHTÔNINEÔTENÔELEVENÔTWELVEÔFIFTYÔONE HUNDREDÔFIVE HUNDREDÔONE THOUSAND
ÀROMAN NUMERAL ONE THOUSAND C DÎFIVE THOUSANDÎTEN THOUSANDÎREVERSED ONE HUNDREDÀLATIN dbREVERSED C
ÀROMAN NUMERAL SIX LATE FORMÎFIFTY EARLY FORMÔTHOUSANDÎONE HUNDRED THOUSAND
ÀVULGAR FRACTION ZERO THIRDSÀTURNED DIGIT TWOÎHREE=2190ÀrgÀUPWARDS gÀjgÀDOWNWARDS gÀpm gÀUP DOWN g
ÀNORTH WEST gÆEAST gÀSOUTH EAST gÆWEST gÀrgawÀjgawÀrWAVE gÀjWAVE gÀrTWO HEADED g
ÀUPWARDS TWO HEADED gÀjTWO HEADED gÀDOWNWARDS TWO HEADED gÀrgaTAILÀjgaTAILÀrg FROM BAR
ÀUPWARDS g FROM BARÀjg FROM BARÀDOWNWARDS g FROM BARÀUP DOWN gaBASEÀrgaHOOKÀjgaHOOKÀrgaLOOP
ÀjgaLOOPÀpm WAVE gËgawÀDOWNWARDS ZIGZAG gÀUPWARDS gaTIP LEFTWARDS×mWARDSÀDOWNWARDS gaTIP LEFTWARDS
ÙmWARDSÀjgaCORNER DOWNWARDSÀDOWNWARDS gaCORNER LEFTWARDSÀANTICLOCKWISE TOP SEMICIRCLE g
ÀCLOCKWISE TOP SEMICIRCLE gÀNORTH WEST g TO LONG BARÀrg TO BAR OVER jg TO BAR
ÀANTICLOCKWISE OPEN CIRCLE gÀCLOCKWISE OPEN CIRCLE gÀrHARPOONaBARB UPWARDSÜDOWNWARDS
ÀUPWARDS HARPOONaBARB mWARDSÚLEFTWARDSÀjHARPOONaBARB UPWARDSÝDOWNWARDS
ÀDOWNWARDS HARPOONaBARB mWARDSÜLEFTWARDSÀjg OVER rgÀUPWARDS g rOF DOWNWARDS gÀrg OVER jgÊPAIRED gS
ÀUPWARDS PAIRED gSÀjPAIRED gSÀDOWNWARDS PAIRED gSÀrHARPOON OVER jHARPOONÀjHARPOON OVER rHARPOON
ÀrngawÄ m ngawÀjngawÀrngÀUPWARDS ngÀjngÀDOWNWARDS ngÀpm ngÀUP DOWN ngÀNORTH WEST ngÆEAST ng
ÀSOUTH EAST ngÆWEST ngÀrTRIPLE gÀjTRIPLE gÀrSQUIGGLE gÀjSQUIGGLE gÀUPWARDS ganwÀDOWNWARDS ganw
ÀrDASHED gÀUPWARDS DASHED gÀjDASHED gÀDOWNWARDS DASHED gÀrg TO BARÀjg TO BARÀrugÀUPWARDS ugÀjug
ÀDOWNWARDS ugÀUPWARDS ug FROM BARÔON PEDESTALßaHORIZONTAL BARåt BARÎngÚ ON PEDESTALÀjug FROM WALL
ÀNORTH WEST g TO CORNERÀSOUTH EAST g TO CORNERÀUP DOWN ugÀm gad CIRCLEÀDOWNWARDS g rOF UPWARDS g
ÀTHREE jgSÀrgat wÀjgat wÀpm gat wÄWARDS gant wÀjgant wÀpm gant wÄWARDS OPEN-HEADED g
ÀjOPEN-HEADED gÀpm OPEN-HEADED gÀFOR ALLÀCOMPLEMENTÀPARTIAL DIFFERENTIALÀTHERE EXISTS
ÆDOES NOT EXISTÀEMPTY SETÀINCREMENTÀNABLAÀELEMENT OFÀNOT AN ELEMENT OFÀd ELEMENT OF
ÀCONTAINS AS MEMBERÀDOES NOT CONTAIN AS MEMBERÀd CONTAINS AS MEMBERÀEND OF PROOFÀN-ARY PRODUCT
ÆCOPRODUCTÆSUMMATIONÀMINUS kÅ-OR-PLUS kÀDOT PLUSÁIVISION SLASHÀSET MINUSÀASTERISK OPERATOR
ÀRING OPERATORÀBULLET OPERATORÀSQUARE ROOTÀCUBE ROOTÀFOURTH ROOTÀPROPORTIONAL TOÀINFINITYÀm ANGLE
ÀANGLEÀMEASURED ANGLEÀSPHERICAL ANGLEÀDIVIDESÁOES NOT DIVIDEÀPARALLEL TOÀNOT PARALLEL TO
ÀLOGICAL ANDÈORÀINTERSECTIONÀUNIONÀINTEGRALÀnINTEGRALÀTRIPLE INTEGRALÀCONTOUR INTEGRAL
ÀSURFACE INTEGRALÀVOLUME INTEGRALÀCLOCKWISE INTEGRALÊCONTOUR INTEGRAL
ÀANTICLOCKWISE CONTOUR INTEGRALÀTHEREFOREÀBECAUSEÀRATIOÀPROPORTIONÀDOT MINUSÀEXCESS
ÀGEOMETRIC PROPORTIONÀHOMOTHETICÀTILDE OPERATORÀREVERSED TILDEÀINVERTED LAZY SÀSINE WAVE
ÀWREATH PRODUCTÀNOT TILDEÀMINUS TILDEÀASYMPTOTICALLY EQUAL TOÀNOT ASYMPTOTICALLY EQUAL TO
ÀAPPROXIMATELY EQUAL TOÎBUT NOT ACTUALLY EQUAL TOÀNEITHER APPROXIMATELY NOR ACTUALLY EQUAL TO
ÀALMOST EQUAL TOÀNOT ALMOST EQUAL TOÀALMOST EQUAL OR EQUAL TOÀTRIPLE TILDEÀALL EQUAL TO
ÀEQUIVALENT TOÀGEOMETRICALLY EQUIVALENT TOÀDIFFERENCE BETWEENÀAPPROACHES THE LIMIT
ÀGEOMETRICALLY EQUAL TOÀAPPROXIMATELY EQUAL TO OR THE IMAGE OFÀIMAGE OF OR APPROXIMATELY EQUAL TO
ÀCOLON EQUALSÀEQUALS COLONÀRING IN EQUAL TOÅEQUAL TOÀCORRESPONDS TOÀESTIMATESÁQUIANGULAR TO
ÀSTAR EQUALSÀDELTA EQUAL TOÀEQUAL TO BY DEFINITIONÀMEASURED BYÀQUESTIONED EQUAL TOÀNOT EQUAL TO
ÀIDENTICAL TOÀNOT IDENTICAL TOÀSTRICTLY EQUIVALENT TOÀLESS-THAN OR EQUAL TO
ÀGREATER-THAN OR EQUAL TOÀLESS-THAN OVER EQUAL TOÀGREATER-THAN OVER EQUAL TO
ÀLESS-THAN BUT NOT EQUAL TOÀGREATER-THAN BUT NOT EQUAL TOÀMUCH LESS-THANÅGREATER-THANÀBETWEEN
ÀNOT EQUIVALENT TOÄLESS-THANÄGREATER-THANÁEITHER LESS-THAN NOR EQUAL TOÈGREATER-THAN NOR EQUAL TO
ÀLESS-THAN OR EQUIVALENT TOÀGREATER-THAN OR EQUIVALENT TOÀNEITHER LESS-THAN NOR EQUIVALENT TO
ÈGREATER-THAN NOR EQUIVALENT TOÀLESS-THAN OR GREATER-THANÀGREATER-THAN OR LESS-THAN
ÀNEITHER LESS-THAN NOR GREATER-THANÈGREATER-THAN NOR LESS-THANÀPRECEDESÀSUCCEEDS
ÀPRECEDES OR EQUAL TOÀSUCCEEDS OR EQUAL TOÀPRECEDES OR EQUIVALENT TOÀSUCCEEDS OR EQUIVALENT TO
ÀDOES NOT PRECEDEÉSUCCEEDÀSUBSET OFÂPERSET OFÀNOT A SUBSET OFÈPERSET OFÀSUBSET OF OR EQUAL TO
ÂPERSET OF OR EQUAL TOÀNEITHER A SUBSET OF NOR EQUAL TOÌPERSET OF NOR EQUAL TO
ÀSUBSET OFaNOT EQUAL TOÂPERSET OFaNOT EQUAL TOÀMULTISETÈ MULTIPLICATIONÉUNIONÀSQUARE IMAGE OF
ÇORIGINAL OFÇIMAGE OF OR EQUAL TOÇORIGINAL OF OR EQUAL TOÇCAPÈUPÀCIRCLED PLUSÈMINUSÈTIMES
ÈDIVISION SLASHÉOT OPERATORÈRING OPERATORÈASTERISK OPERATORÈEQUALSÈDASHÀSQUARED PLUSÈMINUSÈTIMES
ÈDOT OPERATORÀm TACKÀpTACKÀDOWN TACKÀUP TACKÀASSERTIONÀMODELSÀTRUEÀFORCESÀTRIPLE t BAR m TURNSTILE
Ànt BAR nm TURNSTILEÂES NOT PROVEÀNOT TRUEÀDOES NOT FORCEÀNEGATED nt BAR nm TURNSTILE
ÀPRECEDES UNDER RELATIONÀSUCCEEDS UNDER RELATIONÀNORMAL SUBGROUP OFÀCONTAINS AS NORMAL SUBGROUP
ÀNORMAL SUBGROUP OF OR EQUAL TOÀCONTAINS AS NORMAL SUBGROUP OR EQUAL TOÀORIGINAL OFÀIMAGE OF
ÀMULTIMAPÀHERMITIAN CONJUGATE MATRIXÀINTERCALATEÀXORÀNANDÁORÀm ANGLEaARCÆTRIANGLE
ÀN-ARY LOGICAL ANDÎORÆINTERSECTIONÆUNIONÀDIAMOND OPERATORÁOT OPERATORÀSTAR OPERATORÀDIVISION TIMES
ÀBOWTIEÀpNORMAL FACTOR SEMIDIRECT PRODUCTÀm NORMAL FACTOR SEMIDIRECT PRODUCTÀpSEMIDIRECT PRODUCT
Àm SEMIDIRECT PRODUCTÁEVERSED TILDE EQUALSÀCURLY LOGICAL ORÎANDÀnSUBSETÉPERSETÇINTERSECTIONÇUNION
ÀPITCHFORKÀEQUALfPARALLEL TOÀLESS-THANaDOTÀGREATER-THANaDOTÀVERY MUCH LESS-THANÊGREATER-THAN
ÀLESS-THAN EQUAL TO OR GREATER-THANÀGREATER-THAN EQUAL TO OR LESS-THANÀEQUAL TO OR LESS-THAN
ÌGREATER-THANÌPRECEDESÌSUCCEEDSÀDOES NOT PRECEDE OR EQUALÉSUCCEED OR EQUAL
ÀNOT SQUARE IMAGE OF OR EQUAL TOËORIGINAL OF OR EQUAL TOÀSQUARE IMAGE OF OR NOT EQUAL TO
ÇORIGINAL OF OR NOT EQUAL TOÀLESS-THAN BUT NOT EQUIVALENT TOÀGREATER-THAN BUT NOT EQUIVALENT TO
ÀPRECEDES BUT NOT EQUIVALENT TOÀSUCCEEDS BUT NOT EQUIVALENT TOÀNOT NORMAL SUBGROUP OF
ÀDOES NOT CONTAIN AS NORMAL SUBGROUPÀNOT NORMAL SUBGROUP OF OR EQUAL TO
ÀDOES NOT CONTAIN AS NORMAL SUBGROUP OR EQUALÀt ELLIPSISÀMIDLINE HORIZONTAL ELLIPSIS
ÀUP m DIAGONAL ELLIPSISÀDOWN m DIAGONAL ELLIPSISÀELEMENT OFaLONG HORIZONTAL w
Ðt BAR AT END OF HORIZONTAL wÀd ELEMENT OFat BAR AT END OF HORIZONTAL wÀELEMENT OFaDOTlÐOVERBAR
Àd ELEMENT OFaOVERBARÀELEMENT OFaUNDERBARÐTWO HORIZONTAL wSÀCONTAINSaLONG HORIZONTAL w
Ît BAR AT END OF HORIZONTAL wÀd CONTAINSat BAR AT END OF HORIZONTAL wÀCONTAINSaOVERBAR
Àd CONTAINSaOVERBARÀZ NOTATION BAG MEMBERSHIPÀDIAMETER kÀELECTRIC gÀHOUSEÀUP gHEADÀDOWN gHEAD
ÀPROJECTIVEÁERSPECTIVEÀWAVY LINEÀpCEILINGÀm CEILINGÀpFLOORÀm FLOORÀBOTTOM m CROPÇpCROPÀTOP m CROP
ÄpCROPÀREVERSED NOT kÀSQUARE LOZENGEÀARCÀSEGMENTÂCTORÀTELEPHONE RECORDERÀPOSITION INDICATOR
ÀVIEWDATA SQUAREÀPLACE OF INTEREST kÀTURNED NOT kÀWATCHÀHOURGLASSÀTOP pCORNERÄm CORNER
ÀBOTTOM pCORNERÇm CORNERÀTOP HALF INTEGRALÀBOTTOM HALF INTEGRALÀFROWNÀSMILE
ÀUP gHEAD BETWEEN TWO HORIZONTAL BARSÀOPTION KEYÀERASE TO THE mÀX IN A RECTANGLE BOXÀKEYBOARD
ÀLEFT-POINTING ANGLE BRACKETÀm-POINTING ANGLE BRACKETÀERASE TO THE LEFTÀBENZENE RINGÀCYLINDRICITY
ÀALL AROUND-PROFILEÀSYMMETRYÀTOTAL RUNOUTÀDIMENSION ORIGINÀCONICAL TAPERÀSLOPEÀCOUNTERBOREÇSINK
ÀAPL FUNCTIONAL z I-BEAMÖSQUISH QUADÖQUAD EQUALÛDIVIDEÝAMONDÛJOTÛCIRCLEÖCIRCLE STILEÝJOTÖSLASH BAR
ÖBACKSLASH BARÖQUAD SLASHÛBACKSLASHÛLESS-THANÛGREATER-THANÖrVANEÖjVANEÖQUAD rgÛjgÖCIRCLE BACKSLASH
ÖDOWN TACK UNDERBAR×ELTA STILEÖQUAD DOWN CARETÜELTAÖDOWN TACK JOTÖUPWARDS VANEÖQUAD UPWARDS g
ÖUP TACK OVERBARÖDEL STILEÖQUAD UP CARETÛDELÖUP TACK JOTÖDOWNWARDS VANEÖQUAD DOWNWARDS g
ØOTE UNDERBARÖDELTA UNDERBAR×IAMOND UNDERBARÖJOT UNDERBARÖCIRCLE UNDERBARÖUP SHOE JOTÖQUOTE QUAD
ÖCIRCLE STARÖQUAD COLONÖUP TACK DIAERESISÖDEL DIAERESISÖSTAR DIAERESISÖJOT DIAERESIS
ÖCIRCLE DIAERESISÖDOWN SHOE STILEÖpSHOE STILEÖTILDE DIAERESISÖGREATER-THAN DIAERESISÖCOMMA BAR
ÖDEL TILDEÖZILDEÖSTILE TILDE×EMICOLON UNDERBARÖQUAD NOT EQUALÛQUESTIONÖDOWN CARET TILDE
ÖUP CARET TILDEÖIOTAÖRHOÖOMEGAÖALPHA UNDERBARÖEPSILON UNDERBARÖIOTA UNDERBARÖOMEGA UNDERBARÖALPHA
ÀNOT CHECK MARKÀm ANGLEaDOWNWARDS ZIGZAG gÀSHOULDERED OPEN BOXÀBELL zÀt LINEaMIDDLE DOT
ÀINSERTION zÀCONTINUOUS UNDERLINE zÀDISCONTINUOUS UNDERLINE zÀEMPHASIS zÀCOMPOSITION z
ÀuSQUAREaCENTRE t LINEÀENTER zÀALTERNATIVE KEY zÀHELM zÀCIRCLED HORIZONTAL BARaNOTCHÈTRIANGLE DOWN
ÀBROKEN CIRCLEaNORTHWEST gÀUNDO zÀMONOSTABLE zÀHYSTERESIS zÀOPEN-CIRCUIT-OUTPUT H-TYPE zÔL-TYPE z
ÀPASSIVE-PULL-DOWN-OUTPUT zÍUP-OUTPUT zÀDIRECT CURRENT z FORM TWOÀSOFTWARE-FUNCTION z
ÀAPL FUNCTIONAL z QUADÀDECIMAL SEPARATOR KEY zÀPREVIOUS PAGEÀNEXT PAGEÀPRINT SCREEN z
ÀCLEAR SCREEN zÀpPARENTHESIS UPPER HOOKÑEXTENSIONÑLOWER HOOKÀm PARENTHESIS UPPER HOOKÒEXTENSION
ÒLOWER HOOKÀpSQUARE BRACKET UPPER CORNERÔEXTENSIONÔLOWER CORNERÀm SQUARE BRACKET UPPER CORNER
ÕEXTENSIONÕLOWER CORNERÀpCURLY BRACKET UPPER HOOKÓMIDDLE PIECEÓLOWER HOOKÀCURLY BRACKET EXTENSION
Àm CURLY BRACKET UPPER HOOKÔMIDDLE PIECEÔLOWER HOOKÀINTEGRAL EXTENSIONÀHORIZONTAL LINE EXTENSION
ÀUPPER pOR LOWER m CURLY BRACKET SECTIONÆm OR LOWER pCURLY BRACKET SECTIONÀSUMMATION TOPÊBOTTOM
ÀTOP SQUARE BRACKETÀBOTTOM SQUARE BRACKETÕ OVER TOP SQUARE BRACKETÀRADICAL z BOTTOMÀpt BOX LINE
Àm t BOX LINEÀHORIZONTAL SCAN LINE-1Õ3Õ7Õ9ÀDENTISTRY z LIGHT tfTOP mäBOTTOM màWITH CIRCLE
×DOWNfHORIZONTALaCIRCLE×UPfHORIZONTALaCIRCLE×taTRIANGLE×DOWNfHORIZONTALaTRIANGLE
×UPfHORIZONTALaTRIANGLE×tfWAVE×DOWNfHORIZONTALaWAVE×UPfHORIZONTALaWAVE×DOWNfHORIZONTAL
×UPfHORIZONTAL×tfTOP LEFTäBOTTOM LEFTÀSQUARE FOOTÀRETURN zÀEJECT zÀt LINE EXTENSIONÀMETRICAL BREVE
ÉLONG OVER SHORTÉSHORT OVER LONGÉLONG OVER TWO SHORTSÉTWO SHORTS OVER LONGÔJOINEDÊRISEMEÊETRASEME
ÉPENTASEMEÀEARTH GROUNDÀFUSEÀTOP PARENTHESISÀBOTTOM PARENTHESISÀTOP CURLY BRACKET
ÀBOTTOM CURLY BRACKETÀTOP TORTOISE SHELL BRACKETÀBOTTOM TORTOISE SHELL BRACKETÀuTRAPEZIUM
ÀBENZENE RINGaCIRCLEÀSTRAIGHTNESSÀFLATNESSÀAC CURRENTÀELECTRICAL INTERSECTIONÀDECIMAL EXPONENT z
Àxm-POINTING nTRIANGLEÆLEFT-POINTING nTRIANGLEÆUP-POINTING nTRIANGLEÆDOWN-POINTING nTRIANGLE
Æm-POINTING nTRIANGLEat BARÆLEFT-POINTING nTRIANGLEat BARÆm-POINTING TRIANGLEant BARÀALARM CLOCK
ÀSTOPWATCHÀTIMER CLOCKÀHOURGLASSaFLOWING SANDÀxMEDIUM LEFT-POINTING TRIANGLEÍm-POINTING TRIANGLE
ÍUP-POINTING TRIANGLEÍDOWN-POINTING TRIANGLEÀnt BARÀxSQUARE FOR STOPÆCIRCLE FOR RECORDÀPOWER z
ÆON-OFF zÈ zÆSLEEP zÀOBSERVER EYE zÀz FOR NULLËSTART OF HEADINGÔTEXTËEND OF TEXTÓRANSMISSIONÍQUIRY
ËACKNOWLEDGEËBELLÌACKSPACEËHORIZONTAL TABULATIONËLINE FEEDËt TABULATIONËFORM FEEDËCARRIAGE RETURN
ËSHIFT OUTÑINËDATA LINK ESCAPEÌEVICE CONTROL ONEÚTWOÛHREEÚFOURËNEGATIVE ACKNOWLEDGE
ËSYNCHRONOUS IDLEËEND OF TRANSMISSION BLOCKËCANCELËEND OF MEDIUMËSUBSTITUTEËESCAPEËFILE SEPARATOR
ËGROUP SEPARATORËRECORD SEPARATORËUNIT SEPARATORËSPACEËDELETEÀBLANK zÀOPEN BOXÀz FOR NEWLINE
ËDELETE FORM TWOËSUBSTITUTE FORM TWO=2440ÀOCR HOOKÄCHAIRÄFORKÄINVERTED FORKÄBELT BUCKLEÅOW TIE
ÅRANCH BANK IDENTIFICATIONÄAMOUNT OF CHECKÄDASHÄCUSTOMER ACCOUNT NUMBERÄnBACKSLASH
=2460ÀCIRCLED DIGIT ONEÎTWOÏHREEÎFOURÏIVEÎSIXÏEVENÎEIGHTÎNINEÈNUMBER TENÏELEVENÏTWELVEÐHIRTEEN
ÏFOURTEENÐIFTEENÏSIXTEENÐEVENTEENÏEIGHTEENÏNINETEENÏTWENTYÀPARENTHESIZED DIGIT ONEÔTWOÕHREEÔFOUR
ÕIVEÔSIXÕEVENÔEIGHTÔNINEÎNUMBER TENÕELEVENÕTWELVEÖHIRTEENÕFOURTEENÖIFTEENÕSIXTEENÖEVENTEEN
ÕEIGHTEENÕNINETEENÕTWENTYÀDIGIT ONE FULL STOPÆTWO FULL STOPÇHREE FULL STOPÆFOUR FULL STOP
ÇIVE FULL STOPÆSIX FULL STOPÇEVEN FULL STOPÆEIGHT FULL STOPÆNINE FULL STOPÀNUMBER TEN FULL STOP
ÇELEVEN FULL STOPÇTWELVE FULL STOPÈHIRTEEN FULL STOPÇFOURTEEN FULL STOPÈIFTEEN FULL STOP
ÇSIXTEEN FULL STOPÈEVENTEEN FULL STOPÇEIGHTEEN FULL STOPÇNINETEEN FULL STOPÇTWENTY FULL STOP
ÀPARENTHESIZED LATIN dbAáBáCáDáEáFáGáHáIáJáKáLáMáNáOáPáQáRáSáTáUáVáWáXáYáZÀCIRCLED LATIN cbAÝBÝCÝD
ÝEÝFÝGÝHÝIÝJÝKÝLÝMÝNÝOÝPÝQÝRÝSÝTÝUÝVÝWÝXÝYÝZÎdbAÛBÛCÛDÛEÛFÛGÛHÛIÛJÛKÛLÛMÛNÛOÛPÛQÛRÛSÛTÛUÛVÛWÛXÛYÛZ
ÈDIGIT ZEROÀNEGATIVE CIRCLED NUMBER ELEVENØTWELVEÙHIRTEENØFOURTEENÙIFTEENØSIXTEENÙEVENTEEN
ØEIGHTEENØNINETEENØTWENTYÀnCIRCLED DIGIT ONEÕTWOÖHREEÕFOURÖIVEÕSIXÖEVENÕEIGHTÕNINEÏNUMBER TEN
ÀNEGATIVE CIRCLED DIGIT ZEROÀBOX DRAWINGS LIGHT HORIZONTALÍHEAVY HORIZONTALÍLIGHT tÍHEAVY t
ÍLIGHT TRIPLE DASH HORIZONTALÍHEAVY TRIPLE DASH HORIZONTALÍLIGHT TRIPLE DASH tÍHEAVY TRIPLE DASH t
ÍLIGHT QUADRUPLE DASH HORIZONTALÍHEAVY QUADRUPLE DASH HORIZONTALÍLIGHT QUADRUPLE DASH t
ÍHEAVY QUADRUPLE DASH tÍLIGHT DOWNfmÍDOWN LIGHTfm HEAVYÒHEAVYfm LIGHTÍHEAVY DOWNfmÍLIGHT DOWNfLEFT
ÍDOWN LIGHTfpHEAVYÒHEAVYfpLIGHTÍHEAVY DOWNfLEFTÍLIGHT UPfmÍUP LIGHTfm HEAVYÐHEAVYfm LIGHT
ÍHEAVY UPfmÍLIGHT UPfLEFTÍUP LIGHTfpHEAVYÐHEAVYfpLIGHTÍHEAVY UPfLEFTÍLIGHT tfmÍt LIGHTfm HEAVY
ÍUP HEAVYfm DOWN LIGHTÍDOWN HEAVYfm UP LIGHTÍt HEAVYfm LIGHTÍDOWN LIGHTfm UP HEAVY
ÍUP LIGHTfm DOWN HEAVYÍHEAVY tfmÍLIGHT tfLEFTÍt LIGHTfpHEAVYÍUP HEAVYfpDOWN LIGHT
ÍDOWN HEAVYfpUP LIGHTÍt HEAVYfpLIGHTÍDOWN LIGHTfpUP HEAVYÍUP LIGHTfpDOWN HEAVYÍHEAVY tfLEFT
ÍLIGHT DOWNfHORIZONTALÎEFT HEAVYfm DOWN LIGHTÍm HEAVYfpDOWN LIGHTÍDOWN LIGHTfHORIZONTAL HEAVY
ÒHEAVYfHORIZONTAL LIGHTÍm LIGHTfpDOWN HEAVYÍpLIGHTfm DOWN HEAVYÍHEAVY DOWNfHORIZONTAL
ÍLIGHT UPfHORIZONTALÎEFT HEAVYfm UP LIGHTÍm HEAVYfpUP LIGHTÍUP LIGHTfHORIZONTAL HEAVY
ÐHEAVYfHORIZONTAL LIGHTÍm LIGHTfpUP HEAVYÍpLIGHTfm UP HEAVYÍHEAVY UPfHORIZONTALÍLIGHT tfHORIZONTAL
ÎEFT HEAVYfm t LIGHTÍm HEAVYfpt LIGHTÍt LIGHTfHORIZONTAL HEAVYÍUP HEAVYfDOWN HORIZONTAL LIGHT
ÍDOWN HEAVYfUP HORIZONTAL LIGHTÍt HEAVYfHORIZONTAL LIGHTÍpUP HEAVYfm DOWN LIGHT
Ím UP HEAVYfpDOWN LIGHTÍpDOWN HEAVYfm UP LIGHTÍm DOWN HEAVYfpUP LIGHT
ÍDOWN LIGHTfUP HORIZONTAL HEAVYÍUP LIGHTfDOWN HORIZONTAL HEAVYÍm LIGHTfpt HEAVYÍpLIGHTfm t HEAVY
ÍHEAVY tfHORIZONTALÍLIGHT nDASH HORIZONTALÍHEAVY nDASH HORIZONTALÍLIGHT nDASH tÍHEAVY nDASH t
ÍnHORIZONTALÔtÏWN SINGLEfm DOUBLEÒDOUBLEfm SINGLEÏUBLE DOWNfmÏWN SINGLEfpDOUBLEÒDOUBLEfpSINGLE
ÏUBLE DOWNfLEFTÍUP SINGLEfm DOUBLEÐDOUBLEfm SINGLEÍnUPfmÍUP SINGLEfpDOUBLEÐDOUBLEfpSINGLEÍnUPfLEFT
Ít SINGLEfm DOUBLEÖDOUBLEfm SINGLEÍntfmÍt SINGLEfpDOUBLEÖDOUBLEfpSINGLEÍntfLEFT
ÏWN SINGLEfHORIZONTAL DOUBLEÒDOUBLEfHORIZONTAL SINGLEÏUBLE DOWNfHORIZONTAL
ÍUP SINGLEfHORIZONTAL DOUBLEÐDOUBLEfHORIZONTAL SINGLEÍnUPfHORIZONTALÍt SINGLEfHORIZONTAL DOUBLE
ÖDOUBLEfHORIZONTAL SINGLEÍntfHORIZONTALÍLIGHT ARC DOWNfmàLEFT×UPfLEFTÞm
ÓDIAGONAL UPPER m TO LOWER LEFTâpTO LOWER mÜCROSSÓLEFTÓUPÓmÓDOWNÍHEAVY LEFTÓUPÓmÓDOWN
ÍLIGHT LEFTfHEAVY mÓUPfHEAVY DOWNÍHEAVY LEFTfLIGHT mÓUPfLIGHT DOWNÀUPPER HALF BLOCK
ÀLOWER ONE EIGHTH BLOCKÊQUARTER BLOCKÆTHREE EIGHTHS BLOCKÆHALF BLOCKÆFIVE EIGHTHS BLOCK
ÆTHREE QUARTERS BLOCKÆSEVEN EIGHTHS BLOCKÀFULL BLOCKÀpSEVEN EIGHTHS BLOCKÅTHREE QUARTERS BLOCK
ÅFIVE EIGHTHS BLOCKÅHALF BLOCKÅTHREE EIGHTHS BLOCKÅONE QUARTER BLOCKÉEIGHTH BLOCKÀm HALF BLOCK
ÀLIGHT SHADEÀMEDIUM SHADEÀDARK SHADEÀUPPER ONE EIGHTH BLOCKÀm ONE EIGHTH BLOCKÀQUADRANT LOWER LEFT
ÏmÉUPPER LEFTÓfLOWER LEFTfLOWER mÞmØUPPER mfLOWER LEFTîmÏmÔfLOWER LEFTãfLOWER mÀxSQUAREÀuSQUARE
ÌaROUNDED CORNERSÍCONTAINING xd SQUAREÀSQUAREaHORIZONTAL FILLÌt FILLÌORTHOGONAL CROSSHATCH FILL
ÌUPPER pTO LOWER m FILLÒm TO LOWER pFILLÌDIAGONAL CROSSHATCH FILLÀxd SQUAREÀud SQUAREÀxRECTANGLE
ÀuRECTANGLEÀxt RECTANGLEÀut RECTANGLEÀxPARALLELOGRAMÀuPARALLELOGRAMÀxUP-POINTING TRIANGLE
ÀuUP-POINTING TRIANGLEÀxUP-POINTING d TRIANGLEÀuUP-POINTING d TRIANGLEÀxm-POINTING TRIANGLE
Àum-POINTING TRIANGLEÀxm-POINTING d TRIANGLEÀum-POINTING d TRIANGLEÀxm-POINTING POINTER
Àum-POINTING POINTERÀxDOWN-POINTING TRIANGLEÀuDOWN-POINTING TRIANGLEÀxDOWN-POINTING d TRIANGLE
ÀuDOWN-POINTING d TRIANGLEÀxLEFT-POINTING TRIANGLEÀuLEFT-POINTING TRIANGLE
ÀxLEFT-POINTING d TRIANGLEÀuLEFT-POINTING d TRIANGLEÀxLEFT-POINTING POINTERÀuLEFT-POINTING POINTER
ÀxDIAMONDÀuDIAMONDÍ CONTAINING xd DIAMONDÀFISHEYEÀLOZENGEÀuCIRCLEÀDOTTED CIRCLEÀCIRCLEat FILL
ÀBULLSEYEÁLACK CIRCLEÀCIRCLEapHALF BLACKÌm HALF BLACKÌLOWER HALF BLACKÌUPPER HALF BLACK
Òm QUADRANT BLACKÌALL BUT UPPER pQUADRANT BLACKÀpHALF xCIRCLEÀm HALF xCIRCLEÀINVERSE BULLET
ÈuCIRCLEÀUPPER HALF INVERSE uCIRCLEÀLOWER HALF INVERSE uCIRCLEÀUPPER pQUADRANT CIRCULAR ARC
Æm QUADRANT CIRCULAR ARCÀLOWER m QUADRANT CIRCULAR ARCÆpQUADRANT CIRCULAR ARCÀUPPER HALF CIRCLE
ÀLOWER HALF CIRCLEÀxLOWER m TRIANGLEÌpTRIANGLEÆUPPER pTRIANGLEÌm TRIANGLEÀuBULLET
ÀSQUAREapHALF BLACKÌm HALF BLACKÌUPPER pDIAGONAL HALF BLACKÌLOWER m DIAGONAL HALF BLACK
ÀuSQUAREat BISECTING LINEÆUP-POINTING TRIANGLEaDOTÀUP-POINTING TRIANGLEapHALF BLACKÚm HALF BLACK
ÀLARGE CIRCLEÀuSQUAREaUPPER pQUADRANTÒLOWER pQUADRANTØm QUADRANTÒUPPER m QUADRANT
ÆCIRCLEaUPPER pQUADRANTÒLOWER pQUADRANTØm QUADRANTÒUPPER m QUADRANTÀUPPER pTRIANGLEÆm TRIANGLE
ÀLOWER pTRIANGLEÀuMEDIUM SQUAREÀxMEDIUM SQUAREÀuMEDIUM d SQUAREÀxMEDIUM d SQUAREÀLOWER m TRIANGLE
ÀxSUNaRAYSÀCLOUDÀUMBRELLAÀSNOWMANÀCOMETÀxSTARÀuSTARÀLIGHTNINGÀTHUNDERSTORMÀSUNÀASCENDING NODE
ÀDESCENDING NODEÀCONJUNCTIONÀOPPOSITIONÀxTELEPHONEÀuTELEPHONEÀBALLOT BOXÊaCHECKÐXÀSALTIRE
ÀUMBRELLAaRAIN DROPSÀHOT BEVERAGEÀuSHOGI PIECEÀxSHOGI PIECEÀSHAMROCK
ÀREVERSED ROTATED FLORAL HEART BULLETÀxpPOINTING INDEXÆm POINTING INDEXÀupPOINTING INDEX
ÆUP POINTING INDEXÆm POINTING INDEXÆDOWN POINTING INDEXÀSKULLfCROSSBONESÀCAUTION kÀRADIOACTIVE k
ÀBIOHAZARD kÀCADUCEUSÀANKHÀORTHODOX CROSSÀCHI RHOÁROSS OF LORRAINEÉJERUSALEMÀSTARfCRESCENTÀFARSI z
ÀADI SHAKTIÀHAMMERfSICKLEÀPEACE zÀYIN YANGÀTRIGRAM FOR HEAVENÌLAKEÌFIREÌTHUNDERÌWINDÍATERÌMOUNTAIN
ÌEARTHÀWHEEL OF DHARMAÂITE FROWNING FACEÆSMILING FACEÀxSMILING FACEÀuSUNaRAYSÀFIRST QUARTER MOON
ÀLAST QUARTER MOONÀMERCURYÀFEMALE kÀEARTHÀMALE kÀJUPITERÀSATURNÀURANUSÀNEPTUNEÀPLUTOÀARIESÀTAURUS
ÀGEMINIÀCANCERÀLEOÀVIRGOÀLIBRAÀSCORPIUSÁAGITTARIUSÀCAPRICORNÀAQUARIUSÀPISCESÀuCHESS KINGÌQUEEN
ÌROOKÌBISHOPÌKNIGHTÌPAWNÀxCHESS KINGÌQUEENÌROOKÌBISHOPÌKNIGHTÌPAWNÆSPADE SUITÀuHEART SUIT
ÆDIAMOND SUITÀxCLUB SUITÀuSPADE SUITÀxHEART SUITÆDIAMOND SUITÀuCLUB SUITÀHOT SPRINGSÀQUARTER NOTE
ÀEIGHTH NOTEÀBEAMED EIGHTH NOTESÇSIXTEENTH NOTESÀMUSIC FLAT kÆNATURAL kÆSHARP kÀWEST SYRIAC CROSS
ÀEAST SYRIAC CROSSÀUNIVERSAL RECYCLING zÀRECYCLING z FOR TYPE-1 PLASTICSÚ2 PLASTICSÚ3 PLASTICS
Ú4 PLASTICSÚ5 PLASTICSÚ6 PLASTICSÚ7 PLASTICSÕGENERIC MATERIALSÀxUNIVERSAL RECYCLING z
ÀRECYCLED PAPER zÀPARTIALLY-RECYCLED PAPER zÁERMANENT PAPER kÀWHEELCHAIR zÀDIE FACE-1É2É3É4É5É6
ÀuCIRCLEaDOT mÒTWO DOTSÀxCIRCLEauDOT mÒTWO uDOTSÀMONOGRAM FOR YANGÎINÀDIGRAM FOR GREATER YANG
ËLESSER YINÓANGËGREATER YINÀuFLAGÀxFLAGÀHAMMERfPICKÀANCHORÀCROSSED SWORDSÀSTAFF OF AESCULAPIUS
ÁCALESÀALEMBICÀFLOWERÀGEARÀSTAFF OF HERMESÀATOM zÀFLEUR-DE-LISÀOUTLINED uSTAR
ÀTHREE LINES CONVERGING m×LEFTÀWARNING kÀHIGH VOLTAGE kÀDOUBLED FEMALE kÈMALE k
ÀINTERLOCKED FEMALEfMALE kÀMALEfFEMALE kÅWITH w kÑAND MALEfFEMALE kÀt MALEaw kÀHORIZONTAL MALEaw k
ÀMEDIUM uCIRCLEÇxCIRCLEÇd uCIRCLEÁARRIAGE zÀDIVORCE zÀUNMARRIED PARTNERSHIP zÀCOFFINÀFUNERAL URN
ÀNEUTERÀCERESÀPALLASÀJUNOÀVESTAÀCHIRONÀxMOON LILITHÀSEXTILEÂMISEXTILEÀQUINCUNXÀSESQUIQUADRATE
ÁOCCER BALLÀBASEBALLÀSQUARED KEYÀuDRAUGHTS MANÏKINGÀxDRAUGHTS MANÏKINGÀSNOWMAN WITHOUT SNOW
ÁUN BEHIND CLOUDÀRAINÀxSNOWMANÀTHUNDER CLOUDfRAINÁURNED uSHOGI PIECEÇxSHOGI PIECE
ÀuDIAMOND IN SQUAREÀCROSSING LANESÀDISABLED CARÀOPHIUCHUSÀPICKÀCAR SLIDINGÀHELMETauCROSS
ÀCIRCLED CROSSING LANESÁHAINSÀNO ENTRYÀALTERNATE ONE-WAY pWAY TRAFFICÀxTWO-WAY pWAY TRAFFIC
ÀuTWO-WAY pWAY TRAFFICÀxpLANE MERGEÀupLANE MERGEÀDRIVE SLOW kÀHEAVY uDOWN-POINTING TRIANGLE
ÀpCLOSED ENTRYÀSQUARED SALTIREÀFALLING DIAGONAL IN uCIRCLE IN xSQUAREÀxTRUCKÀRESTRICTED pENTRY-1Ö2
ÀASTRONOMICAL z FOR URANUSÀHEAVY CIRCLEawfTWO DOTSlÀPENTAGRAMÀm-HANDED INTERLACED PENTAGRAM
ÀLEFT-HANDED INTERLACED PENTAGRAMÀINVERTED PENTAGRAMÀxCROSS ON SHIELDÀSHINTO SHRINEÀCHURCHÁASTLE
ÀHISTORIC SITEÀGEAR WITHOUT HUBÉ HANDLESÀMAP z FOR LIGHTHOUSEÁOUNTAINÀUMBRELLA ON GROUNDÀFOUNTAIN
ÁLAG IN HOLEÁERRYÀSAILBOATÁQUARE FOUR CORNERSÁKIERÀICE SKATEÀPERSONaBALLÀTENTÀJAPANESE BANK z
ÀHEADSTONE GRAVEYARD zÀFUEL PUMPÀCUP ON xSQUAREÀuFLAGaHORIZONTAL MIDDLE xSTRIPEÀxSAFETY SCISSORS
ÀUPPER BLADE SCISSORSÀxSCISSORSÀLOWER BLADE SCISSORSÀuSCISSORSÆHEAVY CHECK MARK
ÀTELEPHONE LOCATION kÁAPE DRIVEÀAIRPLANEÀENVELOPEÀRAISED FISTÇHANDÀVICTORY HANDÀWRITING HAND
ÀLOWER m PENCILÀPENCILÀUPPER m PENCILÀuNIBÀxNIBÀCHECK MARKÀHEAVY CHECK MARKÀMULTIPLICATION X
ÀHEAVY MULTIPLICATION XÀBALLOT XÀHEAVY BALLOT XÀOUTLINED GREEK CROSSÀHEAVY GREEK CROSS
ÀOPEN CENTRE CROSSÀHEAVY OPEN CENTRE CROSSÀLATIN CROSSÀSHADOWED uLATIN CROSSÀOUTLINED LATIN CROSS
ÀMALTESE CROSSÀSTAR OF DAVIDÀFOUR TEARDROP-SPOKED ASTERISKÅBALLOON-SPOKED ASTERISK
ÀHEAVY FOUR BALLOON-SPOKED ASTERISKÀFOUR CLUB-SPOKED ASTERISKÀxFOUR POINTED STAR
ÀuFOUR POINTED STARÀSPARKLESÁTRESS OUTLINED uSTARÀCIRCLED uSTARÀOPEN CENTRE xSTARÀxCENTRE uSTAR
ÀOUTLINED xSTARÀHEAVY OUTLINED xSTARÀPINWHEEL STARÀSHADOWED uSTARÀHEAVY ASTERISK
ÀOPEN CENTRE ASTERISKÀEIGHT SPOKED ASTERISKÆPOINTED xSTARÎPINWHEEL STARÀSIX POINTED xSTAR
ÀEIGHT POINTED RECTILINEAR xSTARÀHEAVY EIGHT POINTED RECTILINEAR xSTARÀTWELVE POINTED xSTAR
ÀSIXTEEN POINTED ASTERISKÀTEARDROP-SPOKED ASTERISKÀOPEN CENTRE TEARDROP-SPOKED ASTERISK
ÀHEAVY TEARDROP-SPOKED ASTERISKÀSIX PETALLED BLACKfuFLORETTEÀxFLORETTEÀuFLORETTE
ÀEIGHT PETALLED OUTLINED xFLORETTEÀCIRCLED OPEN CENTRE EIGHT POINTED STAR
ÀHEAVY TEARDROP-SPOKED PINWHEEL ASTERISKÀSNOWFLAKEÀTIGHT TRIFOLIATE SNOWFLAKE
ÀHEAVY CHEVRON SNOWFLAKEÀSPARKLEÀHEAVY SPARKLEÀBALLOON-SPOKED ASTERISK
ÀEIGHT TEARDROP-SPOKED PROPELLER ASTERISKÀHEAVY EIGHT TEARDROP-SPOKED PROPELLER ASTERISK
ÀCROSS MARKÀSHADOWED uCIRCLEÀNEGATIVE SQUARED CROSS MARKÀLOWER m DROP-SHADOWED uSQUARE
ÀUPPER m DROP-SHADOWED uSQUAREÀLOWER m SHADOWED uSQUAREÀUPPER m SHADOWED uSQUARE
ÀxQUESTION MARK ORNAMENTÀuQUESTION MARK ORNAMENTÆEXCLAMATION MARK ORNAMENTÀxDIAMOND MINUS uX
ÀHEAVY EXCLAMATION MARK zÀLIGHT t BARÀMEDIUM t BARÀHEAVY t BAR
ÆSINGLE TURNED COMMA QUOTATION MARK ORNAMENTÍCOMMA QUOTATION MARK ORNAMENT
ÆnTURNED COMMA QUOTATION MARK ORNAMENTÍCOMMA QUOTATION MARK ORNAMENT
ÆLOW SINGLE COMMA QUOTATION MARK ORNAMENTÊnCOMMA QUOTATION MARK ORNAMENT
ÀCURVED STEM PARAGRAPH k ORNAMENTÀHEAVY EXCLAMATION MARK ORNAMENTÆHEART EXCLAMATION MARK ORNAMENT
ÆxHEARTÀROTATED HEAVY xHEART BULLETÀFLORAL HEARTÀROTATED FLORAL HEART BULLET
ÀMEDIUM pPARENTHESIS ORNAMENTÇm PARENTHESIS ORNAMENTÇFLATTENED pPARENTHESIS ORNAMENT
Ñm PARENTHESIS ORNAMENTÇLEFT-POINTING ANGLE BRACKET ORNAMENTÇm-POINTING ANGLE BRACKET ORNAMENT
ÀHEAVY LEFT-POINTING ANGLE QUOTATION MARK ORNAMENTÆm-POINTING ANGLE QUOTATION MARK ORNAMENT
ÆLEFT-POINTING ANGLE BRACKET ORNAMENTÆm-POINTING ANGLE BRACKET ORNAMENT
ÀLIGHT pTORTOISE SHELL BRACKET ORNAMENTÆm TORTOISE SHELL BRACKET ORNAMENT
ÀMEDIUM pCURLY BRACKET ORNAMENTÇm CURLY BRACKET ORNAMENTÀDINGBAT NEGATIVE CIRCLED DIGIT ONEßTWO
àHREEßFOURàIVEßSIXàEVENßEIGHTßNINEÙNUMBER TENÈCIRCLED SANS-SERIF DIGIT ONEáTWOâHREEáFOURâIVEáSIX
âEVENáEIGHTáNINEÛNUMBER TENÈNEGATIVE CIRCLED SANS-SERIF DIGIT ONEêTWOëHREEêFOURëIVEêSIXëEVENêEIGHT
êNINEäNUMBER TENÀHEAVY WIDE-HEADED jgÆPLUS kÆMINUS kÆDIVISION kÆSOUTH EAST gÆjgÆNORTH EAST g
ÀDRAFTING POINT jgÀHEAVY ROUND-TIPPED jgÀqjgÀHEAVY qjgÀDASHED qjgÀHEAVY DASHED qjgÀxjg
ÀTHREE-D TOP-LIGHTED jgHEADÈBOTTOM-LIGHTED jgHEADÀxjgHEADÀHEAVY xCURVED DOWNWARDSfjgÓUPWARDSfjg
ÀSQUAT xjgÀHEAVY CONCAVE-POINTED xjgÀm-SHADED ujgÀLEFT-SHADED ujgÀBACK-TILTED SHADOWED ujg
ÀFRONT-TILTED SHADOWED ujgÀHEAVY LOWER m-SHADOWED ujgÆUPPER m-SHADOWED ujg
ÀNOTCHED LOWER m-SHADOWED ujgÀCURLY LOOPÀNOTCHED UPPER m-SHADOWED ujgÀCIRCLED HEAVY ujg
ÀWHITE-FEATHERED jgÀBLACK-FEATHERED SOUTH EAST gÐjgÐNORTH EAST g
ÀHEAVY BLACK-FEATHERED SOUTH EAST gÖjgÖNORTH EAST gÀTEARDROP-BARBED jgÀHEAVY TEARDROP-SHANKED jg
ÀWEDGE-TAILED jgÀHEAVY WEDGE-TAILED jgÀOPEN-OUTLINED jgÀnCURLY LOOPÀTHREE DIMENSIONAL ANGLE
ÀuTRIANGLE CONTAINING d uTRIANGLEÀPERPENDICULARÀOPEN SUBSETÇPERSETÀpS-SHAPED BAG DELIMITER
Àm S-SHAPED BAG DELIMITERÀORaDOT INSIDEÀREVERSE SOLIDUS PRECEDING SUBSET
ÀSUPERSET PRECEDING SOLIDUSÀt BARaHORIZONTAL wÀMATHEMATICAL RISING DIAGONALÀLONG DIVISION
ÀMATHEMATICAL FALLING DIAGONALÀSQUARED LOGICAL ANDÐORÀuDIAMONDaCENTRED DOTÀANDaDOT
ÀELEMENT OF OPENING UPWARDSÀLOWER m CORNERaDOTÀUPPER pCORNERaDOTÀpOUTER JOINÀm OUTER JOIN
ÀFULL OUTER JOINÀLARGE UP TACKÆDOWN TACKÁEFTfm nTURNSTILEÏTACKÅMULTIMAPÁONG m TACKÅpTACK
ÀUP TACKaCIRCLElÀLOZENGE DIVIDED BY HORIZONTAL RULEÀuCONCAVE-SIDED DIAMONDÛarTICKájTICK
ÆSQUAREarTICKÒjTICKÀMATHEMATICAL puSQUARE BRACKETÍm uSQUARE BRACKETÍpANGLE BRACKETÍm ANGLE BRACKET
ÍpnANGLE BRACKETÍm nANGLE BRACKETÍpuTORTOISE SHELL BRACKETÍm uTORTOISE SHELL BRACKET
ÍpFLATTENED PARENTHESISÍm FLATTENED PARENTHESISÀUPWARDS QUADRUPLE gÀDOWNWARDS QUADRUPLE g
ÀANTICLOCKWISE GAPPED CIRCLE gÀCLOCKWISE GAPPED CIRCLE gÀm gaCIRCLED PLUSÀLONG rgÅjgÅpm gÉWARDS ng
ÅjngÅpm ngÉWARDS g FROM BARÅjg FROM BARÅrng FROM BARÅjng FROM BARÐSQUIGGLE gÀBRAILLE PATTERN BLANK
ÐDOTS-1Õ2Õ12Õ3Õ13Õ23Õ123Õ4Õ14Õ24Õ124Õ34Õ134Õ234Õ1234Õ5Õ15Õ25Õ125Õ35Õ135Õ235Õ1235Õ45Õ145Õ245Õ1245
Õ345Õ1345Õ2345Õ12345Õ6Õ16Õ26Õ126Õ36Õ136Õ236Õ1236Õ46Õ146Õ246Õ1246Õ346Õ1346Õ2346Õ12346Õ56Õ156Õ256
Õ1256Õ356Õ1356Õ2356Õ12356Õ456Õ1456Õ2456Õ12456Õ3456Õ13456Õ23456Õ123456Õ7Õ17Õ27Õ127Õ37Õ137Õ237Õ1237
Õ47Õ147Õ247Õ1247Õ347Õ1347Õ2347Õ12347Õ57Õ157Õ257Õ1257Õ357Õ1357Õ2357Õ12357Õ457Õ1457Õ2457Õ12457Õ3457
Õ13457Õ23457Õ123457Õ67Õ167Õ267Õ1267Õ367Õ1367Õ2367Õ12367Õ467Õ1467Õ2467Õ12467Õ3467Õ13467Õ23467
Õ123467Õ567Õ1567Õ2567Õ12567Õ3567Õ13567Õ23567Õ123567Õ4567Õ14567Õ24567Õ124567Õ34567Õ134567Õ234567
Õ1234567Õ8Õ18Õ28Õ128Õ38Õ138Õ238Õ1238Õ48Õ148Õ248Õ1248Õ348Õ1348Õ2348Õ12348Õ58Õ158Õ258Õ1258Õ358Õ1358
Õ2358Õ12358Õ458Õ1458Õ2458Õ12458Õ3458Õ13458Õ23458Õ123458Õ68Õ168Õ268Õ1268Õ368Õ1368Õ2368Õ12368Õ468
Õ1468Õ2468Õ12468Õ3468Õ13468Õ23468Õ123468Õ568Õ1568Õ2568Õ12568Õ3568Õ13568Õ23568Õ123568Õ4568Õ14568
Õ24568Õ124568Õ34568Õ134568Õ234568Õ1234568Õ78Õ178Õ278Õ1278Õ378Õ1378Õ2378Õ12378Õ478Õ1478Õ2478Õ12478
Õ3478Õ13478Õ23478Õ123478Õ578Õ1578Õ2578Õ12578Õ3578Õ13578Õ23578Õ123578Õ4578Õ14578Õ24578Õ124578Õ34578
Õ134578Õ234578Õ1234578Õ678Õ1678Õ2678Õ12678Õ3678Õ13678Õ23678Õ123678Õ4678Õ14678Õ24678Õ124678Õ34678
Õ134678Õ234678Õ1234678Õ5678Õ15678Õ25678Õ125678Õ35678Õ135678Õ235678Õ1235678Õ45678Õ145678Õ245678
Õ1245678Õ345678Õ1345678Õ2345678Õ12345678ÀjTWO-HEADED gat wánt wÀrngat wÀjngat wÀpm ngat w
ÀjTWO-HEADED g FROM BARÀrng FROM BARÀjng FROM BARÀDOWNWARDS gaHORIZONTAL wÀUPWARDS gaHORIZONTAL w
ÈTRIPLE gÀDOWNWARDS TRIPLE gÀrnDASH gÀjnDASH gÀrTRIPLE DASH gÀjTRIPLE DASH g
ÌWO-HEADED TRIPLE DASH gËgaDOTTED STEMÀUPWARDS g TO BARÀDOWNWARDS g TO BARÀjgaTAILat wànt w
ËTWO-HEADED gaTAILåat wënt wÀrg-TAILÀjg-TAILÀrng-TAILÀjng-TAILÀrg TO xDIAMONDÀjg TO xDIAMOND
Àrg FROM BAR TO xDIAMONDÀjg FROM BAR TO xDIAMONDÀNORTH WESTfSOUTH EAST gÆEASTfSOUTH WEST g
ÆWEST gaHOOKÆEAST gaHOOKÀSOUTH EAST gaHOOKÆWEST gaHOOKÀNORTH WEST gfNORTH EAST g
ÆEAST gfSOUTH EAST gÀSOUTH EAST gfSOUTH WEST gÆWEST gfNORTH WEST g
ÀRISING DIAGONAL CROSSING FALLING DIAGONALÀFALLING DIAGONAL CROSSING RISING DIAGONAL
ÀSOUTH EAST g CROSSING NORTH EAST gÀNORTH EAST g CROSSING SOUTH EAST g
ÀFALLING DIAGONAL CROSSING NORTH EAST gÀRISING DIAGONAL CROSSING SOUTH EAST g
ÀNORTH EAST g CROSSING NORTH WEST gÆWEST g CROSSING NORTH EAST gÀWAVE g POINTING DIRECTLY m
Àg POINTING jTHEN CURVING UPWARDSçDOWNWARDSÏDOWNWARDS THEN CURVING LEFTWARDSæmWARDS
Àm-SIDE ARC CLOCKWISE gÀLEFT-SIDE ARC ANTICLOCKWISE gÀTOP ARC ANTICLOCKWISE g
ÀBOTTOM ARC ANTICLOCKWISE gÀTOP ARC CLOCKWISE gaMINUSÈANTICLOCKWISE gaPLUS
ÀLOWER m SEMICIRCULAR CLOCKWISE gÆpSEMICIRCULAR ANTICLOCKWISE gÀANTICLOCKWISE CLOSED CIRCLE g
ÀCLOCKWISE CLOSED CIRCLE gÀjgl SHORT rgÀrgl SHORT jgÀSHORT jgl rgÀjgaPLUSoÀrgaPLUSoÀjg THROUGH X
Àpm g THROUGH d CIRCLEÀUPWARDS TWO-HEADED g FROM d CIRCLEÀpBARB UP m BARB DOWN HARPOON
ÊDOWN m BARB UP HARPOONÀUP BARB m DOWN BARB pHARPOONÈpDOWN BARB m HARPOON
ÀpBARB UP m BARB UP HARPOONÀUP BARB m DOWN BARB m HARPOONÀpBARB DOWN m BARB DOWN HARPOON
ÀUP BARB pDOWN BARB pHARPOONÀrHARPOONaBARB UP TO BARÀjHARPOONaBARB UP TO BAR
ÀUPWARDS HARPOONaBARB m TO BARÀDOWNWARDS HARPOONaBARB m TO BARÀrHARPOONaBARB DOWN TO BAR
ÀjHARPOONaBARB DOWN TO BARÀUPWARDS HARPOONaBARB pTO BARÀDOWNWARDS HARPOONaBARB pTO BAR
ÀrHARPOONaBARB UP FROM BARÀjHARPOONaBARB UP FROM BARÀUPWARDS HARPOONaBARB m FROM BAR
ÀDOWNWARDS HARPOONaBARB m FROM BARÀrHARPOONaBARB DOWN FROM BARÀjHARPOONaBARB DOWN FROM BAR
ÀUPWARDS HARPOONaBARB pFROM BARÀDOWNWARDS HARPOONaBARB pFROM BAR
ÀrHARPOONaBARB UPl rHARPOONaBARB DOWNÀUPWARDS HARPOONaBARB pBESIDE UPWARDS HARPOONaBARB m
ÀjHARPOONaBARB UPl jHARPOONaBARB DOWNÀDOWNWARDS HARPOONaBARB pBESIDE DOWNWARDS HARPOONaBARB m
ÀrHARPOONaBARB UPl jHARPOONaBARB UPÜDOWNl jHARPOONaBARB DOWNÀjHARPOONaBARB UPl rHARPOONaBARB UP
ÝDOWNl rHARPOONaBARB DOWNÀrHARPOONaBARB UPl LONG DASHÜDOWNo LONG DASHÀjHARPOONaBARB UPl LONG DASH
ÝDOWNo LONG DASHÀUPWARDS HARPOONaBARB pBESIDE DOWNWARDS HARPOONaBARB m
ÀDOWNWARDS HARPOONaBARB pBESIDE UPWARDS HARPOONaBARB mÀm ngaROUNDED HEADÀEQUALS kl jg
ÀTILDE OPERATORl jgÀrgl TILDE OPERATORÀjgl TILDE OPERATOR×ALMOST EQUAL TOÀLESS-THANl rg
ÂFTWARDS g THROUGH LESS-THANÀGREATER-THANl jgÀSUBSETl jgÀrg THROUGH SUBSETÀSUPERSETl rgÀpFISH TAIL
Àm FISH TAILÀUP FISH TAILÀDOWN FISH TAILÀTRIPLE t BAR DELIMITERÀZ NOTATION SPOTËTYPE COLON
ÀpuCURLY BRACKETÀm uCURLY BRACKETÀpuPARENTHESISÀm uPARENTHESISÀZ NOTATION pIMAGE BRACKET
Ëm IMAGE BRACKETËpBINDING BRACKETËm BINDING BRACKETÀpSQUARE BRACKETaUNDERBAR
Àm SQUARE BRACKETaUNDERBARÀpSQUARE BRACKETaTICK IN TOP CORNER
Àm SQUARE BRACKETaTICK IN BOTTOM CORNERÀpSQUARE BRACKETaTICK IN BOTTOM CORNER
Àm SQUARE BRACKETaTICK IN TOP CORNERÀpANGLE BRACKETaDOTÀm ANGLE BRACKETaDOTÀpARC LESS-THAN BRACKET
Àm ARC GREATER-THAN BRACKETÀnpARC GREATER-THAN BRACKETÇm ARC LESS-THAN BRACKET
ÀpxTORTOISE SHELL BRACKETÀm xTORTOISE SHELL BRACKETÀDOTTED FENCEÀt ZIGZAG LINE
ÀMEASURED ANGLE OPENING LEFTÀm ANGLE VARIANTaSQUAREÀMEASURED m ANGLEaDOTÀANGLEaS INSIDEÁCUTE ANGLE
ÀSPHERICAL ANGLE OPENING LEFTØUPÀTURNED ANGLEÀREVERSED ANGLEÀANGLEaUNDERBAR
ÀREVERSED ANGLEaUNDERBARÀOBLIQUE ANGLE OPENING UPÖDOWN
ÀMEASURED ANGLEaOPEN ARM ENDING IN g POINTING UPfmýLEFTöDOWNfmÿLEFTömfUPöLEFTfUPömfDOWNöLEFTfDOWN
ÀREVERSED EMPTY SETÀEMPTY SETaOVERBARÏd CIRCLElÏm glÏpglÀCIRCLEaHORIZONTAL BARÆD t BARÈPARALLEL
ÈREVERSE SOLIDUSÈPERPENDICULARÆ DIVIDED BY HORIZONTAL BARfTOP HALF DIVIDED BY t BAR
ÇWITH SUPERIMPOSED XÆD ANTICLOCKWISE-ROTATED DIVISION kÀUP g THROUGH CIRCLEÀCIRCLED uBULLETÈBULLET
ÈLESS-THANÈGREATER-THANÆad CIRCLE TO THE mÌTWO HORIZONTAL wS TO THE m
ÀSQUARED RISING DIAGONAL SLASHÈFALLING DIAGONAL SLASHÈASTERISKÈd CIRCLEÉQUAREÀTWO JOINED SQUARES
ÁRIANGLEaDOTlÎUNDERBARÀS IN TRIANGLEÀTRIANGLEaSERIFS AT BOTTOMÀm TRIANGLEl pTRIANGLE
ÀpTRIANGLE BESIDE t BARÀt BAR BESIDE m TRIANGLEÀBOWTIEapHALF BLACKÌm HALF BLACKÁLACK BOWTIE
ÀTIMESapHALF BLACKËm HALF BLACKÀuHOURGLASSÀxHOURGLASSÀpWIGGLY FENCEÀm WIGGLY FENCEÀpnWIGGLY FENCE
Àm nWIGGLY FENCEÀINCOMPLETE INFINITYÀTIE OVER INFINITYÀINFINITY NEGATEDat BAR
ÀDOUBLE-ENDED MULTIMAPÀSQUAREaCONTOURED OUTLINEÀINCREASES ASÀSHUFFLE PRODUCT
ÀEQUALS kfSLANTED PARALLELàaTILDElÀIDENTICAL TOfSLANTED PARALLELÀGLEICH STARKÀTHERMODYNAMIC
ÀDOWN-POINTING TRIANGLEapHALF BLACKÜm HALF BLACKÀxDIAMONDaDOWN gÆLOZENGEÀuCIRCLEaDOWN g
ÀxCIRCLEaDOWN gÀERROR-BARRED uSQUAREÍxSQUAREÍuDIAMONDÍxDIAMONDÍuCIRCLEÍxCIRCLEÀRULE-DELAYED
ÁEVERSE SOLIDUS OPERATORÀSOLIDUSaOVERBARÀREVERSE SOLIDUSaHORIZONTAL wÀBIG SOLIDUSÄREVERSE SOLIDUS
ÀnPLUSÀTRIPLE PLUSÀLEFT-POINTING CURVED ANGLE BRACKETÀm-POINTING CURVED ANGLE BRACKETÀTINYÀMINY
ÀN-ARY CIRCLED DOT OPERATORÎPLUS OPERATORÎTIMES OPERATORÆUNION OPERATORaDOTÚPLUS
ÆSQUARE INTERSECTION OPERATORÍUNION OPERATORÀTWO LOGICALfOPERATORÌOR OPERATORÀN-ARYsOPERATOR
ÀMODULO TWO SUMÀSUMMATIONaINTEGRALÀQUADRUPLE INTEGRAL OPERATORÀFINITE PART INTEGRALÀINTEGRALanw
ÉAVERAGEaSLASHÀCIRCULATION FUNCTIONÀANTICLOCKWISE INTEGRATION
ÀLINE INTEGRATIONaRECTANGULAR PATH AROUND POLEÖSEMICIRCULAR PATH AROUND POLE
ÑNOT INCLUDING THE POLEÀINTEGRAL AROUND A POINT OPERATORÀQUATERNION INTEGRAL OPERATOR
ÀINTEGRALargaHOOKÎTIMES kÎINTERSECTIONÎUNIONÎOVERBARÎUNDERBARÀJOINÀLARGE pTRIANGLE OPERATOR
ÀZ NOTATION SCHEMA COMPOSITIONÒPIPINGÓROJECTIONÀPLUS kad CIRCLElÏCIRCUMFLEX ACCENTlÏTILDElÏDOTo
ÏTILDEoÏSUBSCRIPT TWOÏxTRIANGLEÀMINUS kaCOMMAlÐDOToÐFALLING DOTSÐRISING DOTS
ÀPLUS k IN pHALF CIRCLEÍm HALF CIRCLEÀVECTOR OR CROSS PRODUCTÀMULTIPLICATION kaDOTlÙUNDERBAR
ÀSEMIDIRECT PRODUCTaBOTTOM CLOSEDÁMASH PRODUCTÀMULTIPLICATION k IN pHALF CIRCLE×m HALF CIRCLE
ÀCIRCLED MULTIPLICATION kaCIRCUMFLEX ACCENTÀMULTIPLICATION k IN nCIRCLEÀCIRCLED DIVISION k
ÀPLUS k IN TRIANGLEÀMINUS k IN TRIANGLEÁULTIPLICATION k IN TRIANGLEÀINTERIOR PRODUCT
ÀmHAND INTERIOR PRODUCTÀZ NOTATION RELATIONAL COMPOSITIONÀAMALGAMATION OR COPRODUCT
ÀINTERSECTIONaDOTÀUNIONaMINUS kËOVERBARÀINTERSECTIONaOVERBARÒLOGICAL ANDÀUNIONaLOGICAL OR
ÆABOVE INTERSECTIONÀINTERSECTIONl UNIONÀUNIONl BARl INTERSECTIONÀINTERSECTIONl BARl UNION
ÀUNION BESIDEfJOINEDaUNIONÀINTERSECTION BESIDEfJOINEDaINTERSECTIONÀCLOSED UNIONaSERIFS
ÇINTERSECTIONaSERIFSÀnSQUARE INTERSECTIONÎUNIONÀCLOSED UNIONaSERIFSfSMASH PRODUCTÀLOGICAL ANDaDOTl
ÈORaDOTlÀnLOGICAL ANDÏORÀTWO INTERSECTING LOGICAL ANDÙORÀSLOPING LARGE ORÎAND
ÀLOGICAL OR OVERLAPPING LOGICAL ANDÈANDaMIDDLE STEMÈORaMIDDLE STEMÈANDaHORIZONTAL DASH
ÈORaHORIZONTAL DASHÈANDanOVERBARÑUNDERBARÑnUNDERBARÀd VEEaUNDERBARÀLOGICAL ORanOVERBAR×UNDERBAR
ÀZ NOTATION DOMAIN ANTIRESTRICTIONËRANGE ANTIRESTRICTIONÀEQUALS kaDOToÀIDENTICALaDOTl
ÀTRIPLE HORIZONTAL BARant wÛTRIPLE t wÁILDE OPERATORaDOTlÔRISING DOTSÀSIMILAR MINUS SIMILAR
ÀCONGRUENTaDOTlÀEQUALSaASTERISKÀALMOST EQUAL TOaCIRCUMFLEX ACCENTÁPPROXIMATELY EQUAL OR EQUAL TO
ÀEQUALS kl PLUS kÀPLUS kl EQUALS kÀEQUALS kl TILDE OPERATORÀnCOLON EQUALÀTWO CONSECUTIVE EQUALS kS
ÁHREE CONSECUTIVE EQUALS kSÀEQUALS kaTWO DOTSlfTWO DOTSoÃIVALENTaFOUR DOTSl
ÀLESS-THANaCIRCLE INSIDEÀGREATER-THANaCIRCLE INSIDEÀLESS-THANaQUESTION MARKl
ÀGREATER-THANaQUESTION MARKlÀLESS-THAN OR SLANTED EQUAL TOÀGREATER-THAN OR SLANTED EQUAL TO
ÀLESS-THAN OR SLANTED EQUAL TOaDOT INSIDEÀGREATER-THAN OR SLANTED EQUAL TOaDOT INSIDE
ÀLESS-THAN OR SLANTED EQUAL TOaDOTlÀGREATER-THAN OR SLANTED EQUAL TOaDOTl
ÀLESS-THAN OR SLANTED EQUAL TOaDOTl mÀGREATER-THAN OR SLANTED EQUAL TOaDOTl LEFT
ÀLESS-THAN OR APPROXIMATEÀGREATER-THAN OR APPROXIMATEÀLESS-THANfSINGLE-LINE NOT EQUAL TO
ÀGREATER-THANfSINGLE-LINE NOT EQUAL TOÀLESS-THANfNOT APPROXIMATEÀGREATER-THANfNOT APPROXIMATE
ÀLESS-THANl DOUBLE-LINE EQUALl GREATER-THANÀGREATER-THANl DOUBLE-LINE EQUALl LESS-THAN
ÀLESS-THANl SIMILAR OR EQUALÀGREATER-THANl SIMILAR OR EQUALÀLESS-THANl SIMILARl GREATER-THAN
ÀGREATER-THANl SIMILARl LESS-THANÀLESS-THANl GREATER-THANl DOUBLE-LINE EQUAL
ÀGREATER-THANl LESS-THANl DOUBLE-LINE EQUALÀLESS-THANl SLANTED EQUALl GREATER-THANl SLANTED EQUAL
ÀGREATER-THANl SLANTED EQUALl LESS-THANl SLANTED EQUALÀSLANTED EQUAL TO OR LESS-THANÔGREATER-THAN
ÔLESS-THANaDOT INSIDEÔGREATER-THANaDOT INSIDEÀDOUBLE-LINE EQUAL TO OR LESS-THANØGREATER-THAN
ÌSLANTED EQUAL TO OR LESS-THANàGREATER-THANÀSIMILAR OR LESS-THANËGREATER-THAN
ÈABOVE LESS-THANl EQUALS kÎGREATER-THANl EQUALS kÀnNESTED LESS-THANÎGREATER-THAN
ÎLESS-THANaUNDERBARÀGREATER-THAN OVERLAPPING LESS-THANÍBESIDE LESS-THANÀLESS-THAN CLOSED BY CURVE
ÀGREATER-THAN CLOSED BY CURVEÀLESS-THAN CLOSED BY CURVEl SLANTED EQUAL
ÀGREATER-THAN CLOSED BY CURVEl SLANTED EQUALÀdER THANÀLARGER THANÀdER THAN OR EQUAL TO
ÀLARGER THAN OR EQUAL TOÀEQUALS kaBUMPYlÀPRECEDESl SINGLE-LINE EQUALS k
ÀSUCCEEDSl SINGLE-LINE EQUALS kÀPRECEDESl SINGLE-LINE NOT EQUAL TO
ÀSUCCEEDSl SINGLE-LINE NOT EQUAL TOÀPRECEDESl EQUALS kÀSUCCEEDSl EQUALS kÀPRECEDESl NOT EQUAL TO
ÀSUCCEEDSl NOT EQUAL TOÀPRECEDESl ALMOST EQUAL TOÀSUCCEEDSl ALMOST EQUAL TO
ÀPRECEDESl NOT ALMOST EQUAL TOÀSUCCEEDSl NOT ALMOST EQUAL TOÀnPRECEDESÇSUCCEEDSÀSUBSETaDOT
ÂPERSETaDOTÂBSETaPLUS koÂPERSETaPLUS koÂBSETaMULTIPLICATION koÂPERSETaMULTIPLICATION ko
ÂBSET OF OR EQUAL TOaDOTlÂPERSET OF OR EQUAL TOaDOTlÂBSET OFl EQUALS kÂPERSET OFl EQUALS k
ÂBSET OFl TILDE OPERATORÂPERSET OFl TILDE OPERATORÂBSET OFl ALMOST EQUAL TO
ÂPERSET OFl ALMOST EQUAL TOÂBSET OFl NOT EQUAL TOÂPERSET OFl NOT EQUAL TOÁQUARE pOPEN BOX OPERATOR
Çm OPEN BOX OPERATORÀCLOSED SUBSETÉPERSETÉBSET OR EQUAL TOÉPERSET OR EQUAL TOÀSUBSETl SUPERSET
ÂPERSETl SUBSETÂBSETl SUBSETÂPERSETl SUPERSETÉBESIDE SUBSETÐAND JOINED BY DASHaSUBSET
ÀELEMENT OF OPENING DOWNWARDSÀPITCHFORKaTEE TOPÀTRANSVERSAL INTERSECTIONÀFORKINGÀNONFORKING
ÀSHORT pTACKÆDOWN TACKÆUP TACKÀPERPENDICULARaSÀt BAR TRIPLE m TURNSTILEÀnt BAR pTURNSTILE
Àt BAR npTURNSTILEÀnt BAR npTURNSTILEÀLONG DASH FROM pMEMBER OF ntÀSHORT DOWN TACKaOVERBAR
ÆUP TACKaUNDERBARÎABOVE SHORT DOWN TACKÀnDOWN TACKÇUP TACKÇw NOT kÀREVERSED nw NOT k
ÀDOES NOT DIVIDEaREVERSED NEGATION SLASHÀt LINEaCIRCLElÚBELOWÀDOWN TACKaCIRCLEo
ÀPARALLELaHORIZONTAL wÎTILDE OPERATORÀTRIPLE t BAR BINARY RELATIONÔWITH HORIZONTAL w
ÇCOLON OPERATORÇNESTED LESS-THANÎGREATER-THANÀDOUBLE-LINE SLANTED LESS-THAN OR EQUAL TO
ÔGREATER-THAN OR EQUAL TOÀTRIPLE SOLIDUS BINARY RELATIONÀLARGE TRIPLE t BAR OPERATOR
ÀnSOLIDUS OPERATORÀut BARÀN-ARY ut BARÁORTH EAST ugÆWEST ugÀSOUTH EAST ugÆWEST ugÀpm ugÄWARDS xg
ÀUPWARDS xgÀDOWNWARDS xgÀNORTH EAST xgÆWEST xgÀSOUTH EAST xgÆWEST xgÀpm xgÀUP DOWN xg
ÀjgaTIP DOWNWARDSÚUPWARDSÀrgaTIP DOWNWARDSÙUPWARDSÀSQUAREaTOP HALF BLACKÌBOTTOM HALF BLACK
ÌUPPER m DIAGONAL HALF BLACKÌLOWER pDIAGONAL HALF BLACKÀDIAMONDapHALF BLACKÍm HALF BLACK
ÍTOP HALF BLACKÍBOTTOM HALF BLACKÁOTTED SQUAREÀxLARGE SQUAREÀuLARGE SQUAREÀxVERY d SQUARE
ÀuVERY d SQUAREÀxPENTAGONÀuPENTAGONÆHEXAGONÀxHEXAGONÀHORIZONTAL xHEXAGONÀxLARGE CIRCLE
ÆMEDIUM DIAMONDÀuMEDIUM DIAMONDÀxMEDIUM LOZENGEÀuMEDIUM LOZENGEÀxd DIAMONDÌLOZENGEÀud LOZENGE
ÀxHORIZONTAL ELLIPSEÀuHORIZONTAL ELLIPSEÀxt ELLIPSEÀut ELLIPSEÀpgad CIRCLEÀTHREE rgS
ÀpgaCIRCLED PLUSÁONG rSQUIGGLE gÁEFTWARDS TWO-HEADED gat wànt wÛFROM BARÕTRIPLE DASH g
ÊgaDOTTED STEMÕTAILat wßnt wÊTWO-HEADED gaTAILäat wênt wÊg THROUGH XÀWAVE g POINTING DIRECTLY LEFT
ÀEQUALS kl rgÀREVERSE TILDE OPERATORl rgÀrgl REVERSE ALMOST EQUAL TOÀjg THROUGH GREATER-THAN
ÙSUPERSETÀrQUADRUPLE gÀjQUADRUPLE gÁEVERSE TILDE OPERATORl jgÁIGHTWARDS gl REVERSE ALMOST EQUAL TO
ÀTILDE OPERATORl rgÀrgl ALMOST EQUAL TOÖREVERSE TILDE OPERATORÀjgl REVERSE TILDE OPERATOR
ÀDOWNWARDS qZIGZAG gÀSHORT SLANTED NORTH gÆBACKSLANTED SOUTH gÀuMEDIUM STARÀxd STARÀud STAR
Àxm-POINTING PENTAGONÀum-POINTING PENTAGONÀHEAVY LARGE CIRCLEÆOVALaOVAL INSIDE
ÆCIRCLEaCIRCLE INSIDEÌÌD SALTIREÀSLANTED NORTH gaHOOKED HEADÀBACKSLANTED SOUTH gaHOOKED TAIL
ÀSLANTED NORTH gaHORIZONTAL TAILÀBACKSLANTED SOUTH gaHORIZONTAL TAIL
ÁENT g POINTING DOWNWARDS THEN NORTH EASTÀSHORT BENT g POINTING DOWNWARDS THEN NORTH EASTÀrqg
ÀUPWARDS qgÀjqgÀDOWNWARDS qgÀpm qgÀUP DOWN qgÀNORTH WEST qgÆEAST qgÀSOUTH EAST qgÆWEST qg
ÀrqDASHED gÀUPWARDS qDASHED gÀjqDASHED gÀDOWNWARDS qDASHED gÀCLOCKWISE qOPEN CIRCLE g
ÀANTICLOCKWISE qOPEN CIRCLE gÀrqg TO BARÀUPWARDS qg TO BARÀjqg TO BARÀDOWNWARDS qg TO BAR
=2b76ÀNORTH WEST qg TO BARÆEAST qg TO BARÀSOUTH EAST qg TO BARÆWEST qg TO BARÀrqganHORIZONTAL w
ÀUPWARDS qganHORIZONTAL wÀjqganHORIZONTAL wÀDOWNWARDS qganHORIZONTAL wÀHORIZONTAL TAB KEY
Àt TAB KEYÀrqg OVER jqgÀUPWARDS qg rOF DOWNWARDS qgÀjqg OVER rqgÀDOWNWARDS qg rOF UPWARDS qg
ÀrqPAIRED gSÀUPWARDS qPAIRED gSÀjqPAIRED gSÀDOWNWARDS qPAIRED gSÀrxCIRCLED ugÀUPWARDS xCIRCLED ug
ÀjxCIRCLED ugÀDOWNWARDS xCIRCLED ugÀANTICLOCKWISE qm U-SHAPED gÞBOTTOM U-SHAPED gÞpU-SHAPED g
ÞTOP U-SHAPED gÀRETURN LEFTÇmÀNEWLINE LEFTÈmÀFOUR CORNER gS CIRCLING ANTICLOCKWISEÀjxg
=2b97Àz FOR TYPE A ELECTRONICSÀTHREE-D TOP-LIGHTED rEQUILATERAL gHEAD
Èm-LIGHTED UPWARDS EQUILATERAL gHEADÈTOP-LIGHTED jEQUILATERAL gHEAD
ÈLEFT-LIGHTED DOWNWARDS EQUILATERAL gHEADÀxrEQUILATERAL gHEADÆUPWARDS EQUILATERAL gHEAD
ÆjEQUILATERAL gHEADÆDOWNWARDS EQUILATERAL gHEADÀDOWNWARDS qgaLONG TIP LEFTWARDSîmWARDS
ÀUPWARDS qgaLONG TIP LEFTWARDSìmWARDSÀrqgaLONG TIP UPWARDSÀjqgaLONG TIP UPWARDS
ÀrqgaLONG TIP DOWNWARDSÀjqgaLONG TIP DOWNWARDSÀxCURVED DOWNWARDSfrgÛjgÍUPWARDSfrgÙjg
ÍLEFTWARDSfUPWARDS gÍmWARDSfUPWARDS gÍLEFTWARDSfDOWNWARDS gÍmWARDSfDOWNWARDS gÀRIBBON g DOWN LEFT
ÒmÍUP LEFTÐmÍpUPÍm UPÍpDOWNÍm DOWNÀUPWARDS ug FROM BARaHORIZONTAL BARÂ gHEAD IN A RECTANGLE BOX
ÀOVERLAPPING uSQUARESÒAND xSQUARESÌxSQUARESÀBALLOT BOXaLIGHT XÀCIRCLED XÈBOLD XÀxSQUARE CENTRED
ÆDIAMOND CENTREDÀTURNED xPENTAGONÀHORIZONTAL xOCTAGONÀxOCTAGONÆMEDIUM UP-POINTING TRIANGLE CENTRED
ÍDOWN-POINTING TRIANGLE CENTREDÍLEFT-POINTING TRIANGLE CENTREDÍm-POINTING TRIANGLE CENTRED
ÀNEPTUNE FORM TWOÀTOP HALF xCIRCLEÀBOTTOM HALF xCIRCLEÀLIGHT FOUR POINTED xCUSP
ÀROTATED LIGHT FOUR POINTED xCUSPÀuFOUR POINTED CUSPÀROTATED uFOUR POINTED CUSP
ÀSQUARE POSITION INDICATORÀUNCERTAINTY kÀGROUP MARKÀPLUTO FORM TWOÌHREEËFOURÌIVEÀTRANSPLUTO
ÀPROSERPINAÀASTRAEAÀHYGIEAÀPHOLUSÀNESSUSÀuMOON SELENAÀxDIAMOND ON CROSSÀTRUE LIGHT MOON ARTA
ÀCUPIDOÀHADESÀZEUSÀKRONOSÀAPOLLONÁDMETOSÀVULCANUSÀPOSEIDONÀpHALF xSTARÀm HALF xSTAR
ÀSTARapHALF BLACKÊm HALF BLACKÀrTWO-HEADED gaTRIANGLE gHEADSÀUPWARDS TWO-HEADED gaTRIANGLE gHEADS
ÀjTWO-HEADED gaTRIANGLE gHEADSÀDOWNWARDS TWO-HEADED gaTRIANGLE gHEADSÀERIS FORM ONEÊTWOÀSEDNA
ÀRUSSIAN ASTROLOGICAL z VIGINTILEÜNOVILEÜQUINTILEÜBINOVILEÜSENTAGONÜTREDECILEÀEQUALS kaINFINITYo
ÀUNITED zÀSEPARATED zÀDOUBLED zÀPASSED zÀREVERSED m ANGLEÀHELLSCHREIBER PAUSE zÀGLAGOLITIC cbAZU
ÚBUKYÚVEDEÚGLAGOLIÚDOBROÚYESTUÚZHIVETEÚDZELOÚZEMLJAÚIZHEÛNITIAL IZHEÛÚDJERVIÚKAKOÚLJUDIJEÚMYSLITE
ÚNASHIÚONUÚPOKOJIÚRITSIÚSLOVOÚTVRIDOÚUKUÚFRITUÚHERUÚOTUÚPEÚSHTAÚTSIÚCHRIVIÚSHAÚYERUÝIÛATI
ÚSPIDERY HAÚYUÚd YUSãaTAILÚYOÚIOTATED d YUSÚBIG YUSÚIOTATED BIG YUSÚFITAÚIZHITSAÚSHTAPIC
ÚTROKUTASTI AÚLATINATE MYSLITEÚCAUDATE CHRIVIËdbAZUØBUKYØVEDEØGLAGOLIØDOBROØYESTUØZHIVETEØDZELO
ØZEMLJAØIZHEÙNITIAL IZHEÙØDJERVIØKAKOØLJUDIJEØMYSLITEØNASHIØONUØPOKOJIØRITSIØSLOVOØTVRIDOØUKU
ØFRITUØHERUØOTUØPEØSHTAØTSIØCHRIVIØSHAØYERUÛIÙATIØSPIDERY HAØYUØd YUSáaTAILØYOØIOTATED d YUS
ØBIG YUSØIOTATED BIG YUSØFITAØIZHITSAØSHTAPICØTROKUTASTI AØLATINATE MYSLITEØCAUDATE CHRIVI
ÀLATIN cbLanBARÆdbLanBARÆcbLaMIDDLE TILDEÕPawÕRaTAILÆdbAawÓTaDIAGONAL wÆcbHaDESCENDER
ÆdbHaDESCENDERÆcbKaDESCENDERÆdbKaDESCENDERÆcbZaDESCENDERÆdbZaDESCENDERÆcbALPHAÕMaHOOKÕTURNED A
ÝLPHAÆdbVam HOOKÆcbWaHOOKÆdbWaHOOKÓVaCURLÆcbHALF HÆdbHALF HÓTAILLESS PHIÓEaNOTCHÓTURNED RaTAIL
ÓOaLOW RING INSIDEÆvd c TURNED EÆSUBSCRIPT dbJÀMODIFIERbc VÀLATIN cbSaSWASH TAILÕZaSWASH TAIL
ÀCOPTIC cbALFAÇdbALFAÇcbVIDAÇdbVIDAÇcbGAMMAÇdbGAMMAÇcbDALDAÇdbDALDAÇcbEIEÇdbEIEÇcbSOUÇdbSOUÇcbZATA
ÇdbZATAÇcbHATEÇdbHATEÇcbTHETHEÇdbTHETHEÇcbIAUDAÇdbIAUDAÇcbKAPAÇdbKAPAÇcbLAULAÇdbLAULAÇcbMIÇdbMI
ÇcbNIÇdbNIÇcbKSIÇdbKSIÇcbOÇdbOÇcbPIÇdbPIÇcbROÇdbROÇcbSIMAÇdbSIMAÇcbTAUÇdbTAUÇcbUAÇdbUAÇcbFIÇdbFI
ÇcbKHIÇdbKHIÇcbPSIÇdbPSIÇcbOOUÇdbOOUÇcbDIALECT-P ALEFÇdbDIALECT-P ALEFÇcbOLD COPTIC AIN
ÇdbOLD COPTIC AINÇcbCRYPTOGRAMMIC EIEÇdbCRYPTOGRAMMIC EIEÇcbDIALECT-P KAPAÇdbDIALECT-P KAPA
ÇcbDIALECT-P NIÇdbDIALECT-P NIÇcbCRYPTOGRAMMIC NIÇdbCRYPTOGRAMMIC NIÇcbOLD COPTIC OOU
ÇdbOLD COPTIC OOUÇcbSAMPIÇdbSAMPIÇcbCROSSED SHEIÇdbCROSSED SHEIÇcbOLD COPTIC SHEI
ÇdbOLD COPTIC SHEIÇcbOLD COPTIC ESHÇdbOLD COPTIC ESHÇcbAKHMIMIC KHEIÇdbAKHMIMIC KHEI
ÇcbDIALECT-P HORIÇdbDIALECT-P HORIÇcbOLD COPTIC HORIÇdbOLD COPTIC HORIÇcbOLD COPTIC HA
ÇdbOLD COPTIC HAÇcbL-SHAPED HAÇdbL-SHAPED HAÇcbOLD COPTIC HEIÇdbOLD COPTIC HEIÇcbOLD COPTIC HAT
ÇdbOLD COPTIC HATÇcbOLD COPTIC GANGIAÇdbOLD COPTIC GANGIAÇcbOLD COPTIC DJAÇdbOLD COPTIC DJA
ÇcbOLD COPTIC SHIMAÇdbOLD COPTIC SHIMAÇcbOLD NUBIAN SHIMAÇdbOLD NUBIAN SHIMAÇcbOLD NUBIAN NGI
ÇdbOLD NUBIAN NGIÇcbOLD NUBIAN NYIÇdbOLD NUBIAN NYIÇcbOLD NUBIAN WAUÇdbOLD NUBIAN WAUÈYMBOL KAI
ÎMI ROÎPI ROÎSTAUROSÎTAU ROÎKHI ROÎSHIMA SIMAÇcbCRYPTOGRAMMIC SHEIÇdbCRYPTOGRAMMIC SHEI
ÇcbCRYPTOGRAMMIC GANGIAÇdbCRYPTOGRAMMIC GANGIAÇCOMBINING NIlÑSPIRITUS ASPERÚLENIS
ÈAPITALbBOHAIRIC KHEIÇdbBOHAIRIC KHEI=2cf9ÇOLD NUBIAN FULL STOPÒDIRECT QUESTION MARK
ÒINDIRECT QUESTION MARKÒVERSE DIVIDERÇFRACTION ONE HALFÈULL STOPÇMORPHOLOGICAL DIVIDER
ÀGEORGIAN dbANÖBANÖGANÖDONÖENÖVINÖZENÖTANÖINÖKANÖLASÖMANÖNARÖONÖPARÖZHARÖRAEÖSANÖTARÖUNÖPHARÖKHAR
ÖGHANÖQARÖSHINÖCHIN×ANÖJILÖCIL×HARÖXANÖJHANÖHAE×E×IEÖWEÖHAR×OE=2d27ÖYN=2d2dÖAEN=2d30ÀTIFINAGHbYAÒB
ÓHÒGÓHHÐBERBER ACADEMY YAJÐYAJÒDÓHÓDÔHÑEYÑAFÒKÐTUAREG YAKÐYAKHHÒHÐBERBER ACADEMY YAHÐTUAREG YAH
ÐYAHHÒAÒKHÐTUAREG YAKHÐYAQÐTUAREG YAQÐYIÑAZHÐAHAGGAR YAZHÐTUAREG YAZHÐYALÒMÒNÐTUAREG YAGNÙNGÐYAPÑU
ÑARÓRÒGHÐTUAREG YAGHÐAYER YAGHÐYASÓSÓHÒTÓHÒCHÒTTÒVÒWÒYÒZÐTAWELLEMET YAZÐYAZZÑEÑO
=2d6fÉMODIFIERbLABIALIZATION MARKÉSEPARATOR MARK=2d7fÉCONSONANT JOINERÀETHIOPIC SYLLABLE LOAÒMOA
ÒROAÒSOAÓHOAÒBOAÒTOAÒCOAÒNOAÓYOAÒGLOTTAL OAÒZOAÒDOAÓDOAÒJOAÒTHOAÒCHOAÒPHOAÓOAÒGGWAÕIÕEEÖ=2da0ÒSSA
ÔUÔIÔAAÔEEÕÔO=2da8ÒCCAÔUÔIÔAAÔEEÕÔO=2db0ÒZZAÔUÔIÔAAÔEEÕÔO=2db8ÒCCHAÕUÕIÕAAÕEEÖÕO=2dc0ÒQYAÔUÔIÔAA
ÔEEÕÔO=2dc8ÒKYAÔUÔIÔAAÔEEÕÔO=2dd0ÒXYAÔUÔIÔAAÔEEÕÔO=2dd8ÒGYAÔUÔIÔAAÔEEÕÔO
=2de0ÀCOMBINING CYRILLICbBEÚVEÚGHEÚDEÚZHEÛEÚKAÚELÛMÛNÚOÚPEÚERÛSÚTEÚHAÚTSEÚCHEÚSHAÜCHAÚFITAÚES-TEÚA
ÚIEÚDJERVÚMONOGRAPH UKÚYATÛUÚIOTIFIED AÚLITTLE YUSÚBIG YUSÚIOTIFIED BIG YUS
Àm ANGLE SUBSTITUTION MARKERÌDOTTED SUBSTITUTION MARKERÀpSUBSTITUTION BRACKET
Àm SUBSTITUTION BRACKETÀpDOTTED SUBSTITUTION BRACKETÀm DOTTED SUBSTITUTION BRACKET
ÁAISED INTERPOLATION MARKERÇDOTTED INTERPOLATION MARKERÀDOTTED TRANSPOSITION MARKER
ÀpTRANSPOSITION BRACKETÀm TRANSPOSITION BRACKETÁAISED SQUAREÀpRAISED OMISSION BRACKET
Àm RAISED OMISSION BRACKETÀEDITORIAL CORONISÀPARAGRAPHOSÀFORKED PARAGRAPHOS
ÀREVERSED FORKED PARAGRAPHOSÀHYPODIASTOLEÀDOTTED OBELOSÂWNWARDS ANCORAÀUPWARDS ANCORA
ÀDOTTED m-POINTING ANGLEÂUBLE OBLIQUE HYPHENÀINVERTED INTERROBANGÀPALM BRANCHÀHYPHENaDIAERESIS
ÀTILDEaRINGlÀpLOW PARAPHRASE BRACKETÀm LOW PARAPHRASE BRACKETÀTILDEaDOTlÏBELOWÀpt BARaQUILL
Àm t BARaQUILLÀTOP pHALF BRACKETÄm HALF BRACKETÀBOTTOM pHALF BRACKETÇm HALF BRACKET
ÀpSIDEWAYS U BRACKETÀm SIDEWAYS U BRACKETÀpnPARENTHESISÀm nPARENTHESIS
ÀTWO DOTS OVER ONE DOT PUNCTUATIONÀONE DOT OVER TWO DOTS PUNCTUATIONÀSQUARED FOUR DOT PUNCTUATION
ÀFIVE DOT MARKÀREVERSED QUESTION MARKÀt TILDEÀRING POINTÀWORD SEPARATOR MIDDLE DOTÀTURNED COMMA
ÀRAISED DOTÇCOMMAÀTURNED SEMICOLONÀDAGGERapGUARDÌm GUARDÀTURNED DAGGERÁOP HALF SECTION k
ÁWO-EM DASHÁHREE-EM DASHÀSTENOGRAPHIC FULL STOPÀt SIX DOTSÀWIGGLY t LINEÀCAPITULUMÀnHYPHEN
ÀREVERSED COMMAÀnLOW-REVERSED-9 QUOTATION MARKÁASHapUPTURNÁOUBLE SUSPENSION MARK
ÀINVERTED LOW KAVYKAÓaKAVYKAlÀLOW KAVYKAÊaDOTÀnSTACKED COMMAÂTTED SOLIDUSÀTRIPLE DAGGER
ÀMEDIEVAL COMMAÀPARAGRAPHUS MARKÁUNCTUS ELEVATUS MARKÀCORNISH VERSE DIVIDERÁROSS PATTYam CROSSBAR
ÑpCROSSBARÀTIRONIAN k c ETÀMEDIEVAL EXCLAMATION MARKÉQUESTION MARKÀpSQUARE BRACKETaw
Àm SQUARE BRACKETawÀpSQUARE BRACKETanwÀm SQUARE BRACKETanwÀTOP HALF pPARENTHESISÉm PARENTHESIS
ÀBOTTOM HALF pPARENTHESISÌm PARENTHESISÀOBLIQUE HYPHEN=2e80ÀCJK RADICAL REPEATÌCLIFFÌSECOND ONE
ÓTWOÔHREEÌPERSONÌBOXÌTABLEÌKNIFE ONEÒTWOÌDIVINATIONÌSEALÍMALL ONEÒTWOÌLAME ONEÑTWOÒHREEÑFOURÌSNAKE
ÌTHREADÌSNOUT ONEÒTWOÌHEART ONEÒTWOÍANDÌRAP=2e9bÌCHOKEÌSUNÌMOONÌDEATHÌMOTHERÌCIVILIANÌWATER ONE
ÒTWOÌFIREÌPAW ONEÐTWOÌSIMPLIFIED HALF TREE TRUNKÌCOWÌDOGÌJADEÌBOLT OF CLOTHÌEYEÌSPIRIT ONEÓTWO
ÌBAMBOOÌSILKÌC-SIMPLIFIED SILKÌNET ONEÐTWOÑHREEÐFOURÌMESHÌSHEEPÌRAMÌEWEÌOLDÌBRUSH ONEÒTWOÌMEAT
ÍORTARÌGRASS ONEÒTWOÓHREEÌTIGERÌCLOTHESÌWEST ONEÑTWOÌC-SIMPLIFIED SEEÌSIMPLIFIED HORNÌHORN
ÌC-SIMPLIFIED SPEECHÚHELLÌFOOTÌC-SIMPLIFIED CARTÌSIMPLIFIED WALKÌWALK ONEÑTWOÌCITY
Í-SIMPLIFIED GOLDÌLONG ONEÑTWOÌC-SIMPLIFIED LONGÙGATEÌMOUND ONEÒTWOÌRAINÌBLUE
ÌC-SIMPLIFIED TANNED LEATHERÙLEAFÙWINDÙFLYÌEAT ONEÐTWOÑHREEÌC-SIMPLIFIED EATÌHEAD
ÌC-SIMPLIFIED HORSEÌBONEÌGHOSTÌC-SIMPLIFIED FISHÙBIRDÙSALTÌSIMPLIFIED WHEAT×YELLOW
ÌC-SIMPLIFIED FROGÌJ-SIMPLIFIED EVENÌC-SIMPLIFIED EVENÌJ-SIMPLIFIED TOOTHÌC-SIMPLIFIED TOOTH
ÌJ-SIMPLIFIED DRAGONÌC-SIMPLIFIED DRAGONÌTURTLEÌJ-SIMPLIFIED TURTLEÌC-SIMPLIFIED TURTLE
=2f00ÀKANGXI RADICAL ONEÏLINEÏDOTÏSLASHÐECONDÏHOOKÏTWOÏLIDÏMANÏLEGSÏENTERÐIGHTÏDOWN BOXÏCOVERÏICE
ÏTABLEÏOPEN BOXÏKNIFEÏPOWERÏWRAPÏSPOONÏm OPEN BOXÏHIDING ENCLOSUREÏTENÏDIVINATIONÏSEALÏCLIFF
ÏPRIVATEÏAGAINÏMOUTHÏENCLOSUREÐARTHÏSCHOLARÏGOÑ SLOWLYÏEVENINGÏBIGÏWOMANÏCHILDÏROOFÏINCHÏdÏLAME
ÏCORPSEÏSPROUTÏMOUNTAINÏRIVERÏWORKÏONESELFÏTURBANÏDRYÏSHORT THREADÏDOTTED CLIFFÏLONG STRIDE
ÏTWO HANDSÏSHOOTÏBOWÏSNOUTÏBRISTLEÏSTEPÏHEARTÐALBERDÏDOORÏHANDÏBRANCHÏRAPÏSCRIPTÏDIPPERÏAXEÏSQUARE
ÏNOTÏSUNÐAYÏMOONÏTREEÏLACKÏSTOPÏDEATHÏWEAPONÏDO NOTÏCOMPAREÏFURÏCLANÏSTEAMÏWATERÏFIREÏCLAWÏFATHER
ÏnXÏHALF TREE TRUNKÏSLICEÏFANGÏCOWÏDOGÏPROFOUNDÏJADEÏMELONÏTILEÏSWEETÏLIFEÏUSEÏFIELDÏBOLT OF CLOTH
ÏSICKNESSÏDOTTED TENTÏWHITEÏSKINÏDISHÏEYEÏSPEARÏgÏSTONEÐPIRITÏTRACKÏGRAINÏCAVEÏSTANDÏBAMBOOÏRICE
ÏSILKÏJARÏNETÏSHEEPÏFEATHERÏOLDÏANDÏPLOWÏEARÏBRUSHÏMEATÐINISTERÏSELFÏARRIVEÏMORTARÏTONGUEÏOPPOSE
ÏBOATÏSTOPPINGÏCOLORÏGRASSÏTIGERÏINSECTÏBLOODÏWALK ENCLOSUREÏCLOTHESÏWESTÏSEEÏHORNÏSPEECHÏVALLEY
ÏBEANÏPIGÏBADGERÏSHELLÏREDÐUNÏFOOTÏBODYÏCARTÏBITTERÏMORNINGÏWALKÏCITYÏWINEÏDISTINGUISHÏVILLAGE
ÏGOLDÏLONGÏGATEÏMOUNDÏSLAVEÐHORT TAILED BIRDÏRAINÏBLUEÏWRONGÏFACEÏLEATHERÏTANNED LEATHERÏLEEK
ÏSOUNDÏLEAFÏWINDÏFLYÏEATÏHEADÏFRAGRANTÏHORSEÏBONEÏTALLÏHAIRÏFIGHTÏSACRIFICIAL WINEÏCAULDRONÏGHOST
ÏFISHÏBIRDÏSALTÏDEERÏWHEATÏHEMPÏYELLOWÏMILLETÏBLACKÏEMBROIDERYÏFROGÏTRIPODÏDRUMÏRATÏNOSEÏEVEN
ÏTOOTHÏDRAGONÏTURTLEÏFLUTE=2ff0ÀIDEOGRAPHIC DESCRIPTION CHARACTER pTO mâABOVE TOoâpTO MIDDLEfm
âABOVE TO MIDDLEfBELOWâFULL SURROUNDâSURROUND FROMlðBELOWðLEFTðUPPER LEFTömðLOWER LEFTâOVERLAID
=3000ÌSPACEÌCOMMAÌFULL STOPÀDITTO MARKÀJAPANESE INDUSTRIAL STANDARD zÀIDEOGRAPHIC ITERATION MARK
ÌCLOSING MARKÌNUMBER ZEROÀpANGLE BRACKETÀm ANGLE BRACKETÀpnANGLE BRACKETÀm nANGLE BRACKET
ÀpCORNER BRACKETÀm CORNER BRACKETÀpuCORNER BRACKETÀm uCORNER BRACKETÀpxLENTICULAR BRACKET
Àm xLENTICULAR BRACKETÀPOSTAL MARKÀGETA MARKÀpTORTOISE SHELL BRACKETÀm TORTOISE SHELL BRACKET
ÀpuLENTICULAR BRACKETÀm uLENTICULAR BRACKETÀpuTORTOISE SHELL BRACKETÀm uTORTOISE SHELL BRACKET
ÀpuSQUARE BRACKETÀm uSQUARE BRACKETÀWAVE DASHÀREVERSED nPRIME QUOTATION MARKÀnPRIME QUOTATION MARK
ÀLOW nPRIME QUOTATION MARKÀPOSTAL MARK FACEÀHANGZHOU NUMERAL ONEÑTWOÒHREEÑFOURÒIVEÑSIXÒEVENÑEIGHT
ÑNINEÀIDEOGRAPHIC LEVEL TONE MARKÌRISING TONE MARKÌDEPARTING TONE MARKÌENTERING TONE MARK
ÀHANGUL SINGLE DOT TONE MARKÇnDOT TONE MARKÀWAVY DASHÀt KANA REPEAT MARKÕWITH VOICED SOUND MARK
ÕMARK UPPER HALFÕWITH VOICED SOUND MARK UPPER HALFÕMARK LOWER HALFÀCIRCLED POSTAL MARK
ÀIDEOGRAPHIC TELEGRAPH LINE FEED SEPARATOR zÀHANGZHOU NUMERAL TENÒWENTYÒHIRTY
Àt IDEOGRAPHIC ITERATION MARKÀMASU MARKÀPART ALTERNATION MARKÀIDEOGRAPHIC VARIATION INDICATOR
ÌHALF FILL SPACE=3041ÀHIRAGANAbd AÐAÐd IÐIÐd UÐUÐd EÐEÐd OÐOÐKAÐGAÐKIÐGIÐKUÐGUÐKEÐGEÐKOÐGOÐSAÐZA
ÐSIÐZIÐSUÐZUÐSEÐZEÐSOÐZOÐTAÐDAÐTIÐDIÐd TUÐTUÐDUÐTEÐDEÐTOÐDOÐNAÑIÑUÑEÑOÐHAÐBAÐPAÐHIÐBIÐPIÐHUÐBUÐPU
ÐHEÐBEÐPEÐHOÐBOÐPOÐMAÑIÑUÑEÑOÐd YAÐYAÐd YUÐYUÐd YOÐYOÐRAÑIÑUÑEÑOÐd WAÐWAÑIÑEÑOÐNÐVUÐd KA×E
=3099ÀCOMBINING KATAKANA-HIRAGANA VOICED SOUND MARKÜSEMI-VOICED SOUND MARK
ÀKATAKANA-HIRAGANA VOICED SOUND MARKÒSEMI-VOICED SOUND MARKÀHIRAGANA ITERATION MARK
ÉVOICED ITERATION MARKÉDIGRAPH YORIÀKATAKANA-HIRAGANA nHYPHENÈbd AÐAÐd IÐIÐd UÐUÐd EÐEÐd OÐOÐKAÐGA
ÐKIÐGIÐKUÐGUÐKEÐGEÐKOÐGOÐSAÐZAÐSIÐZIÐSUÐZUÐSEÐZEÐSOÐZOÐTAÐDAÐTIÐDIÐd TUÐTUÐDUÐTEÐDEÐTOÐDOÐNAÑIÑUÑE
ÑOÐHAÐBAÐPAÐHIÐBIÐPIÐHUÐBUÐPUÐHEÐBEÐPEÐHOÐBOÐPOÐMAÑIÑUÑEÑOÐd YAÐYAÐd YUÐYUÐd YOÐYOÐRAÑIÑUÑEÑOÐd WA
ÐWAÑIÑEÑOÐNÐVUÐd KA×EÐVAÑIÑEÑOÉMIDDLE DOTÈ-HIRAGANA PROLONGED SOUND MARKÈ ITERATION MARK
ÉVOICED ITERATION MARKÉDIGRAPH KOTO=3105ÀBOPOMOFObBÐPÐMÐFÐDÐTÐNÐLÐGÐKÐHÐJÐQÐXÐZHÐCHÐSHÐRÐZÐCÐSÐAÐO
ÐEÑHÐAIÐEIÐAUÐOUÐANÐENÐANGÐENGÑRÐIÐUÐIUÐVÐNGÐGNÐIHÐOaDOTlÐNN=3131ÀHANGULbKIYEOKÎSSANGKIYEOK
ÎKIYEOK-SIOSÎNIEUNÓ-CIEUCÔHIEUHÎTIKEUTÎSSANGTIKEUTÎRIEULÓ-KIYEOKÔMIEUMÔPIEUPÔSIOSÔTHIEUTHÔPHIEUPH
ÔHIEUHÎMIEUMÎPIEUPÎSSANGPIEUPÎPIEUP-SIOSÎSIOSÏSANGSIOSÎIEUNGÎCIEUCÎSSANGCIEUCÎCHIEUCHÎKHIEUKH
ÎTHIEUTHÎPHIEUPHÎHIEUHÎAÏEÎYAÐEÎEOÏÎYEOÐÎOÎWAÐEÎOEÎYOÎUÎWEOÐÏIÎYUÎEUÎYIÎIÇFILLERÇvSSANGNIEUN
ÎNIEUN-TIKEUTÔSIOSÔPANSIOSÎRIEUL-KIYEOK-SIOSÔTIKEUTÔPIEUP-SIOSÕANSIOSÔYEORINHIEUHÎMIEUM-PIEUPÔSIOS
ÔPANSIOSÎKAPYEOUNMIEUMÎPIEUP-KIYEOKÔTIKEUTÔSIOS-KIYEOKÙTIKEUTÔCIEUCÔTHIEUTHÎKAPYEOUNPIEUP
ÖSSANGPIEUPÎSIOS-KIYEOKÓNIEUNÓTIKEUTÓPIEUPÓCIEUCÎPANSIOSÎSSANGIEUNGÎYESIEUNGÖ-SIOS×PANSIOS
ÎKAPYEOUNPHIEUPHÎSSANGHIEUHÎYEORINHIEUHÏO-YAÓEÑIÏU-YEOÓÑIÎARAEAÓE
=3190ÀIDEOGRAPHIC ANNOTATION LINKING MARK×REVERSE MARK×ONE MARK×TWO MARKØHREE MARK×FOUR MARK
×TOP MARK×MIDDLE MARK×BOTTOM MARK×FIRST MARK×SECOND MARK×THIRD MARK×FOURTH MARK×HEAVEN MARK
×EARTH MARK×MAN MARKÀBOPOMOFObBUÐZIÐJIÐGUÐEEÑNNÐOOÑNNÐIRÐANNÐINNÐUNNÐIMÐNGGÐAINNÑUNNÑMÐOMÑNGÐINNN
ÉFINALbPÖTÖKÖHÉvGHÐLHÐZYÉFINALbGÉvGWÐKWÐOEÐAHÀCJK w TËWGËXGËBXGËSWËHZZÍGÌPÌZWGËSZWGËHZTÍZPÌPWGÌZW
ÍZZËNËHËSËPËSPËDËHZÌGËSZÌWZÌTÌGËPDÌZËTNËSZZÌWGËHXWGÌZZZGËPGËQ=31f0ÀKATAKANAbd KUÖSI×UÖTOÖNUÖHA×I×U
×E×OÖMUÖRA×I×U×E×OÀPARENTHESIZED HANGUL KIYEOKÕNIEUNÕTIKEUTÕRIEULÕMIEUMÕPIEUPÕSIOSÕIEUNGÕCIEUC
ÖHIEUCHÕKHIEUKHÕTHIEUTHÕPHIEUPHÕHIEUHÕKIYEOK AÕNIEUN AÕTIKEUT AÕRIEUL AÕMIEUM AÕPIEUP AÕSIOS A
ÕIEUNG AÕCIEUC AÖHIEUCH AÕKHIEUKH AÕTHIEUTH AÕPHIEUPH AÕHIEUH AÕCIEUC UÎKOREAN CHARACTER OJEONà HU
=3220ÎIDEOGRAPH ONEØTWOÙHREEØFOURÙIVEØSIXÙEVENØEIGHTØNINEØTENØMOONØFIREØWATERÙOODØMETALØEARTHØSUN
ÙTOCKØHAVEØSOCIETYØNAMEØSPECIALØFINANCIALØCONGRATULATIONØLABORØREPRESENTØCALLØSTUDYÙUPERVISE
ØENTERPRISEØRESOURCEØALLIANCEØFESTIVALØRESTØSELFØREACHÀCIRCLED IDEOGRAPH QUESTIONÒKINDERGARTEN
ÒSCHOOLÒKOTOÈNUMBER TEN ON xSQUAREÐWENTY ON xSQUAREÐHIRTY ON xSQUAREÏFORTY ON xSQUARE
ÐIFTY ON xSQUAREÏSIXTY ON xSQUAREÐEVENTY ON xSQUAREÏEIGHTY ON xSQUAREÀPARTNERSHIP k
ÀCIRCLED NUMBER TWENTY ONEÖTWO×HREEÖFOUR×IVEÖSIX×EVENÖEIGHTÖNINEÐHIRTYÕ ONEÖTWO×HREEÖFOUR×IVE
ÈHANGUL KIYEOKÏNIEUNÏTIKEUTÏRIEULÏMIEUMÏPIEUPÏSIOSÏIEUNGÏCIEUCÐHIEUCHÏKHIEUKHÏTHIEUTHÏPHIEUPH
ÏHIEUHÏKIYEOK AÏNIEUN AÏTIKEUT AÏRIEUL AÏMIEUM AÏPIEUP AÏSIOS AÏIEUNG AÏCIEUC AÐHIEUCH AÏKHIEUKH A
ÏTHIEUTH AÏPHIEUPH AÏHIEUH AÈKOREAN CHARACTER CHAMKOÙJUEUIÈHANGUL IEUNG UÀKOREAN STANDARD z
ÀCIRCLED IDEOGRAPH ONEÒTWOÓHREEÒFOURÓIVEÒSIXÓEVENÒEIGHTÒNINEÒTENÒMOONÒFIREÒWATERÓOODÒMETALÒEARTH
ÒSUNÓTOCKÒHAVEÒSOCIETYÒNAMEÒSPECIALÒFINANCIALÒCONGRATULATIONÒLABORÒSECRETÒMALEÒFEMALEÒSUITABLE
ÒEXCELLENTÒPRINTÒATTENTIONÒITEMÒRESTÒCOPYÔRRECTÒHIGHÒCENTREÒLOWÓEFTÒmÒMEDICINEÒRELIGIONÒSTUDY
ÓUPERVISEÒENTERPRISEÒRESOURCEÒALLIANCEÒNIGHTÈNUMBER THIRTY SIX×EVENÖEIGHTÖNINEÏFORTYÔ ONEÕTWOÖHREE
ÕFOURÖIVEÕSIXÖEVENÕEIGHTÕNINEÐIFTYÀIDEOGRAPHIC TELEGRAPH z FOR JANUARYáFEBRUARYáMARCHáAPRILáMAY
áJUNEãLYáAUGUSTáSEPTEMBERáOCTOBERáNOVEMBERáDECEMBERÀSQUARE HGÇERGÈVÀLIMITED LIABILITY k
ÀCIRCLED KATAKANA AÑIÑUÑEÑOÑKAÒIÒUÒEÒOÑSAÒIÒUÒEÒOÑTAÒIÒUÒEÒOÑNAÒIÒUÒEÒOÑHAÒIÒUÒEÒOÑMAÒIÒUÒEÒOÑYAÒU
ÒOÑRAÒIÒUÒEÒOÑWAÒIÒEÒOÀSQUARE ERA NAME REIWAÇAPAATOÈRUHUAÈNPEAÈARUÇININGUÉTIÇUONÇESUKUUDOÈEKAA
ÇONSUÈOMUÇKAIRIÉRATTOÊORIIÇGARONÉNMAÈIGAÉNIIÇKYURIIÇGIRUDAAÇKIROËGURAMUËMEETORUËWATTOÇGURAMUÍTON
ÇKURUZEIROÊOONEÈEESUÈORUNAÉOPOÇSAIKURUÉNTIIMUÈIRINGUÈENTIËOÇDAASUÈESIÈORUÇTONÇNANOÈOTTOÇHAITU
ÇPAASENTOÊTUÇBAARERUÇPIASUTORUÉKURUÊOÇBIRUÇHUARADDOÉIITOÇBUSSYERUÇHURANÈEKUTAARUÇPESOÉNIHIÇHERUTU
ÇPENSUÉEZIÇBEETAÇPOINTOÇBORUTOÇHONÇPONDOÇHOORUÊNÇMAIKUROÊRUÉHHAÉRUKUÉNSYONÈIKURONÉRIËBAARUÈEGAËTON
ÉETORUÇYAADOÊRUÈUANÇRITTORUÉRAÈUPIIÉUBURUÈEMUÉNTOGENÇWATTOÀIDEOGRAPHIC TELEGRAPH z FOR HOUR ZERO
æONEæTWOçHREEæFOURçIVEæSIXçEVENæEIGHTæNINEæTENæELEVENæTWELVEçHIRTEENæFOURTEENçIFTEENæSIXTEEN
çEVENTEENæEIGHTEENæNINETEENæTWENTYì-ONEíTWOîHREEíFOURÀSQUARE HPAÇDAÇAUÇBARÇOVÇPCÇDMÉ SQUAREDÊCUBED
ÇIUÇERA NAME HEISEIÐSYOUWAÐTAISYOUÐMEIZIÇCORPORATIONÇPA AMPSÇNAÇMU AÈAÇKAÈBÇMBÇGBÇCALÇKCALÇPFÇNF
ÇMU FÊGÈGÇKGÇHZÇKHZÇMHZÇGHZÇTHZÇMU LÈLÇDLÇKLÇFMÇNMÇMU MÈMÇCMÇKMÇMM SQUAREDÇCM SQUAREDÇM SQUARED
ÇKM SQUAREDÇMM CUBEDÇCM CUBEDÇM CUBEDÇKM CUBEDÇM OVER SÏ SQUAREDÇPAÇKPAÇMPAÇGPAÇRADÊ OVER S
Ñ SQUAREDÇPSÇNSÇMU SÈSÇPVÇNVÇMU VÈVÇKVÇMV MEGAÇPWÇNWÇMU WÈWÇKWÇMW MEGAÇK OHMÇM OHMÇAMÇBQÇCCÈD
È OVER KGÈOÇDBÇGYÇHAÈPÇINÇKKÈM cÈTÇLMÈNÈOGÈXÇMB dÈILÈOLÇPHÈMÈPMÈRÇSRÈVÇWBÇV OVER MÇA OVER M
ÀIDEOGRAPHIC TELEGRAPH z FOR DAY ONEåTWOæHREEåFOURæIVEåSIXæEVENåEIGHTåNINEåTENåELEVENåTWELVE
æHIRTEENåFOURTEENæIFTEENåSIXTEENæEVENTEENåEIGHTEENåNINETEENåTWENTYë-ONEìTWOíHREEìFOURíIVEìSIXíEVEN
ìEIGHTìNINEæHIRTYë-ONEÀSQUARE GAL=4dc0ÀHEXAGRAM FOR THE CREATIVE HEAVENÑRECEPTIVE EARTH
ÍDIFFICULTY AT THE BEGINNINGÍYOUTHFUL FOLLYÍWAITINGÍCONFLICTÍTHE ARMYÍHOLDING TOGETHERÍd TAMING
ÍTREADINGÍPEACEÍSTANDSTILLÍFELLOWSHIPÍGREAT POSSESSIONÍMODESTYÍENTHUSIASMÍFOLLOWING
ÍWORK ON THE DECAYEDÍAPPROACHÍCONTEMPLATIONÍBITING THROUGHÍGRACEÍSPLITTING APARTÍRETURNÍINNOCENCE
ÍGREAT TAMINGÍMOUTH CORNERSÍGREAT PREPONDERANCEÍTHE ABYSMAL WATERÑCLINGING FIREÍINFLUENCEÍDURATION
ÍRETREATÍGREAT POWERÍPROGRESSÍDARKENING OF THE LIGHTÍTHE FAMILYÍOPPOSITIONÎBSTRUCTIONÍDELIVERANCE
ÏCREASEÍINCREASEÍBREAKTHROUGHÍCOMING TO MEETÍGATHERING TOGETHERÍPUSHING UPWARDÍOPPRESSIONÍTHE WELL
ÍREVOLUTIONÍTHE CAULDRONÑAROUSING THUNDERÑKEEPING STILL MOUNTAINÍDEVELOPMENTÍTHE MARRYING MAIDEN
ÍABUNDANCEÍTHE WANDERERÑGENTLE WINDÑJOYOUS LAKEÍDISPERSIONÍLIMITATIONÍINNER TRUTHÍd PREPONDERANCE
ÍAFTER COMPLETIONÍBEFORE COMPLETION=a000ÀYI SYLLABLE ITÍXÍÍPÍETÎXÎÎPÌATÍXÍÍPÌUOXÎÎPÌOTÍXÍÍPÌEXÍÌWU
ÌBITÎXÎÎPÎETÏXÏÏPÍATÎXÎÎPÍUOXÏÏPÍOTÎXÎÎPÍEXÎÎPÍUTÎXÎÎPÎRXÏÍYTÎXÎÎPÎRXÏÌPITÎXÎÎPÎEXÏÏPÍATÎXÎÎPÍUOXÏ
ÏPÍOTÎXÎÎPÍUTÎXÎÎPÎRXÏÍYTÎXÎÎPÎRXÏÌBBITÏXÏÏPÏETÐXÐÐPÎATÏXÏÏPÎUOXÐÐPÎOTÏXÏÏPÎEXÏÏPÎUTÏXÏÏPÏRXÐÎYTÏX
ÏÏPÌNBITÏXÏÏPÏEXÐÐPÎATÏXÏÏPÎOTÏXÏÏPÎUTÏXÏÏPÏRXÐÎYTÏXÏÏPÏRXÐÌHMITÏXÏÏPÏEXÐÐPÎATÏXÏÏPÎUOXÐÐPÎOTÏXÏÏP
ÎUTÏXÏÏPÏRXÐÎYXÏÏPÏRXÐÌMITÎXÎÎPÎEXÏÏPÍATÎXÎÎPÍUOTÏXÏÏPÍOTÎXÎÎPÍEXÎÍUTÎXÎÎPÎRXÏÍYTÎXÎÎPÌFITÎXÎÎPÍAT
ÎXÎÎPÍOXÎÎPÍUTÎXÎÎPÎRXÏÍYTÎXÎÎPÌVITÎXÎÎPÎETÏXÏÏPÍATÎXÎÎPÍOTÎXÎÎPÍEXÎPÍUTÎXÎÎPÎRXÏÍYTÎXÎÎPÎRXÏÌDIT
ÎXÎÎPÎEXÏÏPÍATÎXÎÎPÍUOXÏÍOTÎXÎÎPÍEXÎÎPÍUTÎXÎÎPÎRXÏÌTITÎXÎÎPÎEXÏÏPÍATÎXÎÎPÍUOTÏXÏÏPÍOTÎXÎÎPÍEXÎÎP
ÍUTÎXÎÎPÎRXÏÌDDITÏXÏÏPÏEXÐÐPÎATÏXÏÏPÎUOXÐÐPÎOTÏXÏÏPÎEXÏÏPÎUTÏXÏÏPÏRXÐÌNDITÏXÏÏPÏEXÐÎATÏXÏÏPÎOTÏXÏ
ÏPÎEXÏÏPÎUTÏXÏÏPÏRXÐÌHNITÏXÏÏPÏETÐXÐÐPÎATÏXÏÏPÎUOXÐÎOTÏXÏPÎEXÏÏPÎUTÌNITÎXÎÎPÎEXÏÏPÍAXÎÎPÍUOXÏÏPÍOT
ÎXÎÎPÍEXÎÎPÍUTÎXÎÎPÎRXÏÌHLITÏXÏÏPÏEXÐÐPÎATÏXÏÏPÎUOXÐÐPÎOXÏÏPÎEXÏÏPÎUTÏXÏÏPÏRXÐÎYTÏXÏÏPÏRXÐÌLITÎXÎ
ÎPÎETÏXÏÏPÍATÎXÎÎPÍUOTÏXÏÏPÍOTÎXÎÎPÍEXÎÎPÍUTÎXÎÎPÎRXÏÍYTÎXÎÎPÎRXÏÌGITÎXÎÎPÎETÏXÏÏPÍATÎXÎÎPÍUOTÏXÏ
ÏPÍOTÎXÎÎPÍETÎXÎÎPÍUTÎXÎÎPÎRXÏÌKITÎXÎÎPÎEXÏÏPÍATÎXÎÎPÍUOXÏÏPÍOTÎXÎÎPÍETÎXÎÎPÍUTÎXÎÎPÎRXÏÌGGITÏXÏ
ÏEXÐÐPÎATÏXÏÏPÎUOTÐXÐÐPÎOTÏXÏÏPÎETÏXÏÏPÎUTÏXÏÏPÏRXÐÌMGIEXÐÎATÏXÏÏPÎUOXÐÐPÎOTÏXÏÏPÎEXÏÏPÎUTÏXÏÏPÏRX
ÐÌHXITÏXÏÏPÏETÐXÐÐPÎATÏXÏÏPÎUOTÐXÐÐPÎOTÏXÏÏPÎEXÏÏPÌNGIEXÐÐPÎATÏXÏÏPÎUOTÐXÐÎOTÏXÏÏPÎEXÏÏPÌHITÎEXÏ
ÍATÎXÎÎPÍUOTÏXÏÏPÍOTÎXÎÎPÍEXÎÎPÌWATÎXÎÎPÍUOXÏÏPÍOXÎÎPÍEXÎÎPÌZITÎXÎÎPÎEXÏÏPÍATÎXÎÎPÍUOXÏÏPÍOTÎXÎÎP
ÍEXÎÎPÍUTÎXÎÎPÎRXÏÍYTÎXÎÎPÎRXÏÌCITÎXÎÎPÎETÏXÏÏPÍATÎXÎÎPÍUOXÏÏPÍOTÎXÎÎPÍEXÎÎPÍUTÎXÎÎPÎRXÏÍYTÎXÎÎP
ÎRXÏÌZZITÏXÏÏPÏETÐXÐÐPÎATÏXÏÏPÎOXÏÏPÎEXÏÏPÎUXÏÏPÏRXÐÎYTÏXÏÏPÏRXÐÌNZITÏXÏÏPÏEXÐÐPÎATÏXÏÏPÎUOXÐÎOXÏP
ÎEXÏÎUXÏÏPÏRXÐÎYTÏXÏÏPÏRXÐÌSITÎXÎÎPÎEXÏÏPÍATÎXÎÎPÍUOXÏÏPÍOTÎXÎÎPÍEXÎÎPÍUTÎXÎÎPÎRXÏÍYTÎXÎÎPÎRXÏÍSIT
ÏXÏÏPÏEXÐÐPÎATÏXÏÏPÎOTÏXÏÏPÎEXÏÏPÎUTÏXÏÏPÎYTÏXÏÏPÏRXÐÌZHATÏXÏÏPÎUOXÐÐPÎOTÏXÏÏPÎETÏXÏÏPÎUTÏXÏÏPÏRXÐ
ÎYTÏXÏÏPÏRXÐÌCHATÏXÏÏPÎUOTÐXÐÐPÎOTÏXÏÏPÎETÏXÏÏPÎUXÏÏPÏRXÐÎYTÏXÏÏPÏRXÐÌRRAXÏÎUOXÐÎOTÏXÏÏPÎETÏXÏÏP
ÎUTÏXÏÏPÏRXÐÎYTÏXÏÏPÏRXÐÌNRATÏXÏÏPÎOXÏÏPÎETÏXÏÏPÎUTÏXÏÏPÏRXÐÎYTÏXÏÏPÏRXÐÌSHATÏXÏÏPÎUOXÐÐPÎOTÏXÏÏP
ÎETÏXÏÏPÎUTÏXÏÏPÏRXÐÎYTÏXÏÏPÏRXÐÌRATÎXÎÎPÍUOXÏÏPÍOTÎXÎÎPÍEXÎÎPÍUTÎXÎÎPÎRXÏÍYTÎXÎÎPÎRXÏÌJITÎXÎÎPÎET
ÏXÏÏPÍUOTÏXÏÏPÍOTÎXÎÎPÍUTÎXÎÎPÎRXÏÍYTÎXÎÎPÎRXÏÌQITÎXÎÎPÎETÏXÏÏPÍUOTÏXÏÏPÍOTÎXÎÎPÍUTÎXÎÎPÎRXÏÍYTÎXÎ
ÎPÎRXÏÌJJITÏXÏÏPÏETÐXÐÐPÎUOXÐÐPÎOTÏXÏÏPÎUTÏXÏÏPÏRXÐÎYTÏXÏÏPÌNJITÏXÏÏPÏETÐXÐÐPÎUOXÐÎOTÏXÏÏPÎUXÏÏP
ÏRXÐÎYTÏXÏÏPÏRXÐÍYITÏXÏÏPÏETÐXÐÐPÎUOXÐÐPÎOTÏXÏÏPÎUTÏXÏÏPÌXITÎXÎÎPÎETÏXÏÏPÍUOXÏÍOTÎXÎÎPÍYTÎXÎÎPÎRXÏ
ÌYITÎXÎÎPÎETÏXÏÏPÍUOTÏXÏÏPÍOTÎXÎÎPÍUTÎXÎÎPÎRXÏÍYTÎXÎÎPÎRXÏ=a490ÃRADICAL QOTËLIËKITËNYIPËCYPËSSI
ËGGOPÌEPËMIËHXITËLYRËBBUTËMOPËYOËPUTËHXUOËTATËGAËZUPËCYTËDDURËBURËGGUOËNYOPËTUËOPËJJUTËZOTËPYTËHMO
ËYITËVURËSHYËVEPËZAËJOËNZUPËJJYËGOTËJJIEËWOËDUËSHURËLIEËCYÌUOPÌIPËHXOPËSHATËZURËSHOPËCHEËZZIET
ËNBIEËKE=a4d0ÀLISUbBAÌPAÍHAÌDAÌTAÍHAÌGAÌKAÍHAÌJAÌCAÍHAÌDZAÌTSAÎHAÌMAÌNAÌLAÌSAÌZHAÍAÌNGAÌHAÌXAÌHHA
ÌFAÌWAÌSHAÌYAÌGHAÌAÍEÌEÍUÌIÌOÌUÍEÍHÌOEÌTONE MYA TIÑNA POÑMYA CYAÕBOÕNAÕJEUÅPUNCTUATION COMMA
ÑFULL STOPÀVAI SYLLABLE EEÏNÍHEEÍWEEÐNÍPEEÍBHEEÎEEÍMBEEÍKPEEÍMGBEEÍGBEEÍFEEÍVEEÍTEEÎHEEÍDHEEÏHEE
ÍLEEÍREEÍDEEÍNDEEÍSEEÎHEEÍZEEÎHEEÍCEEÍJEEÍNJEEÍYEEÍKEEÍNGGEEÍGEEÍMEEÍNEEÎYEEÍIÎNÍHIÏNÍWIÏNÍPIÍBHI
ÎIÍMBIÍKPIÍMGBIÍGBIÍFIÍVIÍTIÎHIÍDHIÏHIÍLIÍRIÍDIÍNDIÍSIÎHIÍZIÎHIÍCIÍJIÍNJIÍYIÍKIÍNGGIÍGIÍMIÍNIÎYIÍA
ÎNÍNGANÍHAÏNÍWAÏNÍPAÍBHAÎAÍMBAÍKPAÐNÍMGBAÍGBAÍFAÍVAÍTAÎHAÍDHAÏHAÍLAÍRAÍDAÍNDAÍSAÎHAÍZAÎHAÍCAÍJA
ÍNJAÍYAÍKAÏNÍNGGAÍGAÍMAÍNAÎYAÍOOÏNÍHOOÍWOOÐNÍPOOÍBHOOÎOOÍMBOOÍKPOOÍMGBOOÍGBOOÍFOOÍVOOÍTOOÎHOOÍDHOO
ÏHOOÍLOOÍROOÍDOOÍNDOOÍSOOÎHOOÍZOOÎHOOÍCOOÍJOOÍNJOOÍYOOÍKOOÍNGGOOÍGOOÍMOOÍNOOÎYOOÍUÎNÍHUÏNÍWUÏNÍPU
ÍBHUÎUÍMBUÍKPUÍMGBUÍGBUÍFUÍVUÍTUÎHUÍDHUÏHUÍLUÍRUÍDUÍNDUÍSUÎHUÍZUÎHUÍCUÍJUÍNJUÍYUÍKUÍNGGUÍGUÍMUÍNU
ÎYUÍOÎNÍNGONÍHOÏNÍWOÏNÍPOÍBHOÎOÍMBOÍKPOÍMGBOÍGBOÐNÍFOÍVOÍTOÎHOÍDHOÏHOÍLOÍROÍDOÍNDOÍSOÎHOÍZOÎHOÍCO
ÍJOÍNJOÍYOÍKOÍNGGOÍGOÍMOÍNOÎYOÍEÎNÍNGENÍHEÏNÍWEÏNÍPEÍBHEÎEÍMBEÍKPEÐNÍMGBEÍGBEÐNÍFEÍVEÍTEÎHEÍDHEÏHE
ÍLEÍREÍDEÍNDEÍSEÎHEÍZEÎHEÍCEÍJEÍNJEÍYEÍKEÍNGGEÑNÍGEÏNÍMEÍNEÎYEÎGÍLENGTHENERÄCOMMAÄFULL STOP
ÄQUESTION MARKÄSYLLABLE NDOLE FAÓKAÓSOOÆMBOL FEENGËKEENGËTINGËNIIËBANGËFAAËTAAËDANGÌOONGËKUNGËTONG
ËDO-OËJONGÄDIGIT ZEROÊONEÊTWOËHREEÊFOURËIVEÊSIXËEVENÊEIGHTÊNINEÄSYLLABLE NDOLE MAÓDO
=a640ÀCYRILLIC cbZEMLYAÉdbZEMLYAÉcbDZELOÉdbDZELOÉcbREVERSED DZEÉdbREVERSED DZEÉcbIOTAÉdbIOTA
ÉcbDJERVÉdbDJERVÉcbMONOGRAPH UKÉdbMONOGRAPH UKÉcbBROAD OMEGAÉdbBROAD OMEGAÉcbNEUTRAL YER
ÉdbNEUTRAL YERÉcbYERUaBACK YERÉdbYERUaBACK YERÉcbIOTIFIED YATÉdbIOTIFIED YATÉcbREVERSED YU
ÉdbREVERSED YUÉcbIOTIFIED AÉdbIOTIFIED AÉcbCLOSED LITTLE YUSÉdbCLOSED LITTLE YUSÉcbBLENDED YUS
ÉdbBLENDED YUSÉcbIOTIFIED CLOSED LITTLE YUSÉdbIOTIFIED CLOSED LITTLE YUSÉcbYNÉdbYNÉcbREVERSED TSE
ÉdbREVERSED TSEÉcbSOFT DEÉdbSOFT DEÉcbSOFT ELÉdbSOFT ELÉcbSOFT EMÉdbSOFT EMÉcbMONOCULAR O
ÉdbMONOCULAR OÉcbBINOCULAR OÉdbBINOCULAR OÉcbnMONOCULAR OÉdbnMONOCULAR OÉvMULTIOCULAR O
ÁOMBINING CYRILLIC VZMETÓTEN MILLIONS kÓHUNDRED MILLIONS kÓTHOUSAND MILLIONS kÀSLAVONIC ASTERISK
ÀCOMBINING CYRILLICbUKRAINIAN IEÚIÚYIÚUÚHARD kÚYERUÚSOFT kÚOMEGAÓKAVYKAÓPAYEROKÁYRILLIC KAVYKA
ÉPAYEROKÉcbDWEÉdbDWEÉcbDZWEÉdbDZWEÉcbZHWEÉdbZHWEÉcbCCHEÉdbCCHEÉcbDZZEÉdbDZZEÉcbTEaMIDDLE HOOK
ÉdbTEaMIDDLE HOOKÉcbTWEÉdbTWEÉcbTSWEÉdbTSWEÉcbTSSEÉdbTSSEÉcbTCHEÉdbTCHEÉcbHWEÉdbHWEÉcbSHWEÉdbSHWE
ÉcbnOÉdbnOÉcbCROSSED OÉdbCROSSED OÀMODIFIERbCYRILLIC HARD kÙSOFT kÀCOMBINING CYRILLICbEF
ÚIOTIFIED EÀBAMUMbAÍKAÍUÍKUÍEEÍREEÍTAEÍOÍNYIÍIÍLAÍPAÍRIIÏEEÍLEEEEÍMEEEEÍTAAÍNDAAÎJAEMÍMÍSUUÍMU
ÍSHIIÎIÎHEUXÎEUXÍKYEEÎETÍNUAEÏÎJUAEÍYOQÍSHUÍYUQÎAÍNSHAÍKEUXÍPEUXÍNJEEÎTEEÍPUEÍWUEÍPEEÍFEEÍRUÍLUÍMI
ÍNIÍREUXÎAEÍKENÍNGKWAENÏGAÏAÍSHOÍPUAEÍFUÎOMÍWAÍNAÍLIÍPIÍLOQÍKOÍMBENÍRENÍMENÎAÍTIÍKIÍMOÎBAAÍTETÍKPA
ÍTENÍNTUUÍSAMBAÍFAAMAEÍKOVUUÏGHOMÆCOMBINING MARK KOQNDONÕTUKWENTISÆNJAEMLIÆFULL STOPÆCOLONÈMMA
ÆSEMICOLONÆQUESTION MARK=a700ÀMODIFIERbCHINESE TONE YIN PINGÞANG PINGÞIN SHANGÞANG SHANGÞIN QU
ÞANG QUÞIN RUÞANG RUÐEXTRA-HIGH DOTTED TONE BARÐHIGH DOTTED TONE BARÐMID DOTTED TONE BAR
ÐLOW DOTTED TONE BARÐEXTRA-LOW DOTTED TONE BARÖHIGH DOTTED LEFT-STEM TONE BAR
ÐHIGH DOTTED LEFT-STEM TONE BARÐMID DOTTED LEFT-STEM TONE BARÐLOW DOTTED LEFT-STEM TONE BAR
ÐEXTRA-LOW DOTTED LEFT-STEM TONE BARÖHIGH LEFT-STEM TONE BARÐHIGH LEFT-STEM TONE BAR
ÐMID LEFT-STEM TONE BARÐLOW LEFT-STEM TONE BARÐEXTRA-LOW LEFT-STEM TONE BARÐDOT t BARÔSLASH
ÔHORIZONTAL BARÐLOWER m CORNER ANGLEÐRAISED UP g×DOWN g×EXCLAMATION MARK×INVERTED EXCLAMATION MARK
ÐLOW INVERTED EXCLAMATION MARKÐSTRESSfHIGH TONEÛLOW TONEÀLATIN cbEGYPTOLOGICAL ALEF
ÆdbEGYPTOLOGICAL ALEFÆcbEGYPTOLOGICAL AINÆdbEGYPTOLOGICAL AINÆcbHENGÆdbHENGÆcbTZÆdbTZÆcbTRESILLO
ÆdbTRESILLOÆcbCUATRILLOÆdbCUATRILLOÆcbCUATRILLOaCOMMAÆdbCUATRILLOaCOMMAÆvd c FÛSÆcbAAÆdbAAÆcbAO
ÆdbAOÆcbAUÆdbAUÆcbAVÆdbAVÆcbAVaHORIZONTAL BARÆdbAVaHORIZONTAL BARÆcbAYÆdbAYÆcbREVERSED CaDOT
ÆdbREVERSED CaDOTÆcbKawÆdbKawÆcbKaDIAGONAL wÆdbKaDIAGONAL wÆcbKawfDIAGONAL wÆdbKawfDIAGONAL w
ÆcbBROKEN LÆdbBROKEN LÆcbLaHIGH wÆdbLaHIGH wÆcbOaLONG w OVERLAYÆdbOaLONG w OVERLAYÆcbOaLOOP
ÆdbOaLOOPÆcbOOÆdbOOÆcbPaw THROUGH DESCENDERÆdbPaw THROUGH DESCENDERÆcbPaFLOURISHÆdbPaFLOURISH
ÆcbPaSQUIRREL TAILÆdbPaSQUIRREL TAILÆcbQaw THROUGH DESCENDERÆdbQaw THROUGH DESCENDER
ÆcbQaDIAGONAL wÆdbQaDIAGONAL wÆcbR ROTUNDAÆdbR ROTUNDAÆcbRUM ROTUNDAÆdbRUM ROTUNDAÆcbVaDIAGONAL w
ÆdbVaDIAGONAL wÆcbVYÆdbVYÆcbVISIGOTHIC ZÆdbVISIGOTHIC ZÆcbTHORNawÆdbTHORNaw
ÆcbTHORNaw THROUGH DESCENDERÆdbTHORNaw THROUGH DESCENDERÆcbVENDÆdbVENDÆcbETÆdbETÆcbISÆdbISÆcbCON
ÆdbCONÀMODIFIERbUSÀLATIN dbDUMÓLUMÓMUMÓNUMÓRUMÆvd c RUMÆdbTUMÓUMÆcbINSULAR DÆdbINSULAR D
ÆcbINSULAR FÆdbINSULAR FÆcbINSULAR GÕTURNED INSULAR GÆdbTURNED INSULAR GÆcbTURNED LÆdbTURNED L
ÆcbINSULAR RÆdbINSULAR RÆcbINSULAR SÆdbINSULAR SÆcbINSULAR TÆdbINSULAR T
ÀMODIFIERbLOW CIRCUMFLEX ACCENTÐCOLONÐSHORT EQUALS kÀLATIN cbSALTILLOÆdbSALTILLOÆcbTURNED H
ÆdbLaRETROFLEX HOOKfBELTÆvSINOLOGICAL DOTÆcbNaDESCENDERÆdbNaDESCENDERÆcbCaBARÆdbCaBARÚPALATAL HOOK
ÓHaPALATAL HOOKÆcbBaFLOURISHÆdbBaFLOURISHÆcbFawÆdbFawÆcbVOLAPUK AEÆdbVOLAPUK AEÆcbVOLAPUK OE
ÆdbVOLAPUK OEÆcbVOLAPUK UEÆdbVOLAPUK UEÆcbGaOBLIQUE wÆdbGaOBLIQUE wÆcbKaOBLIQUE wÆdbKaOBLIQUE w
ÆcbNaOBLIQUE wÆdbNaOBLIQUE wÆcbRaOBLIQUE wÆdbRaOBLIQUE wÆcbSaOBLIQUE wÆdbSaOBLIQUE wÆcbHaHOOK
ÕREVERSED OPEN EÕSCRIPT GÕLaBELTÕd c IÆvd c QÆcbTURNED KÜTÕJaCROSSED-TAILÕCHIÕBETAÆdbBETAÆcbOMEGA
ÆdbOMEGAÆcbUawÆdbUawÆcbGLOTTAL AÆdbGLOTTAL AÆcbGLOTTAL IÆdbGLOTTAL IÆcbGLOTTAL UÆdbGLOTTAL U
ÆcbOLD POLISH OÆdbOLD POLISH OÆcbANGLICANA WÆdbANGLICANA WÆcbCaPALATAL HOOKÕSaHOOKÕZaPALATAL HOOK
ÕDaSHORT w OVERLAYÆdbDaSHORT w OVERLAYÆcbSaSHORT w OVERLAYÆdbSaSHORT w OVERLAY
=a7d0ÆcbCLOSED INSULAR GÆdbCLOSED INSULAR G=a7d3ÓnTHORN=a7d5ÚWYNNÆcbMIDDLE SCOTS S
ÆdbMIDDLE SCOTS SÆcbSIGMOID SÆdbSIGMOID S=a7f2ÀMODIFIERbc CØFØQÀLATIN cbREVERSED HALF H
ÆdbREVERSED HALF HÆEPIGRAPHICbSIDEWAYS IÀMODIFIERbc HawÐd LIGATURE OEÀLATINbd c TURNED M
ÆEPIGRAPHICbREVERSED FáPØINVERTED MÙ LONGAØARCHAIC MÀSYLOTI NAGRIbAÔIÍk DVISVARAÍvUÔEÔOÍk HASANTA
ÍvKOÕHOÔGOÕHOÍk ANUSVARAÍvCOÕHOÔJOÕHOÔTTOÖHOÔDDOÖHOÔTOÕHOÔDOÕHOÔNOÔPOÕHOÔBOÕHOÔMOÔROÔLOÔRROÔSOÔHO
Íyk AØIØUØEØOOÍPOETRY MARK-1Ù2Ù3Ù4Ík ALTERNATE HASANTA=a830ÀNORTH INDIC FRACTION ONE QUARTERÙHALF
ÕTHREE QUARTERSÕONE SIXTEENTHÙEIGHTHÕTHREE SIXTEENTHSÌQUARTER MARKÌPLACEHOLDER MARKÌRUPEE MARK
ÌQUANTITY MARK=a840ÀPHAGS-PAbKAÑHAÐGAÐNGAÐCAÑHAÐJAÐNYAÐTAÑHAÐDAÐNAÐPAÑHAÐBAÐMAÐTSAÒHAÐDZAÐWAÐZHAÑA
Ðd AÐYAÐRAÐLAÐSHAÑAÐHAÐAÐIÐUÐEÐOÐQAÐXAÐFAÐGGAÐEEÉSUBJOINEDbWAÚYAÉvTTAÒHAÐDDAÐNNAÐALTERNATE YA
ÐVOICELESS SHAÕD HAÐASPIRATED FAÉSUBJOINEDbRAËPERFIXEDbRAÉvCANDRABINDUÉSINGLE HEAD MARKÉnHEAD MARK
ÉMARK SHADÎnSHAD=a880ÀSAURASHTRA k ANUSVARAÐVISARGAËvAÓAÒIÓIÒUÓUÒVOCALIC RÛRÚLÛLÒEÓEÒAIÒOÓOÒAUÒKA
ÓHAÒGAÓHAÒNGAÒCAÓHAÒJAÓHAÒNYAÒTTAÔHAÒDDAÔHAÒNNAÒTAÓHAÒDAÓHAÒNAÒPAÓHAÒBAÓHAÒMAÒYAÒRAÒLAÒVAÒSHAÓSAÓA
ÒHAÒLLAËCONSONANT k HAARUËyk AAÖI×IÖU×UÖVOCALIC RßRÞLßLÖE×EÖAIÖO×OÖAUËk VIRAMAÐCANDRABINDU
=a8ceËDANDAÌOUBLE DANDAÌIGIT ZEROÑONEÑTWOÒHREEÑFOURÒIVEÑSIXÒEVENÑEIGHTÑNINE
=a8e0ÀCOMBINING DEVANAGARI DIGIT ZEROÛONEÛTWOÜHREEÛFOURÜIVEÛSIXÜEVENÛEIGHTÛNINEÕvAÜUÜKAÜNAÜPAÜRA
ÜVIÕk AVAGRAHAÀDEVANAGARI k SPACING CANDRABINDUÐCANDRABINDU VIRAMAÐnCANDRABINDU VIRAMA
ÐCANDRABINDU TWOÝHREEÜAVAGRAHAÐPUSHPIKAËGAP FILLERËCARETËHEADwËk SIDDHAMËJAIN OMËvAYËyk AY
ÀKAYAH LI DIGIT ZEROÏONEÏTWOÐHREEÏFOURÐIVEÏSIXÐEVENÏEIGHTÏNINEÉvKAÑHAÐGAÐNGAÐSAÑHAÐZAÐNYAÐTAÐHTA
ÐNAÐPAÑHAÐMAÐDAÐBAÐRAÐYAÐLAÐWAÐTHAÐHAÐVAÐCAÐAÐOEÐIÐOOÉyUEÏEÏUÏEEÏOÉTONE PLOPHUÎCALYAÓ PLOPHUÉk CWI
ÎSHYAÀREJANGbKAÎGAÎNGAÎTAÎDAÎNAÎPAÎBAÎMAÎCAÎJAÎNYAÎSAÎRAÎLAÎYAÎWAÎHAÎMBAÎNGGAÏDAÏYJAÎAÇyk IÒUÒEÒAI
ÒOÒAUÒEUÓAÇCONSONANT k NG×ÖRÖHÇVIRAMA=a95fÇSECTION MARKÀHANGUL CHOSEONG TIKEUT-MIEUM×PIEUP×SIOS
×CIEUCÐRIEUL-KIYEOKÖSSANGKIYEOKÖTIKEUTÖSSANGTIKEUTÖMIEUMÖPIEUPÖSSANGPIEUPÖKAPYEOUNPIEUPÖSIOSÖCIEUC
ÖKHIEUKHÐMIEUM-KIYEOKÖTIKEUTÖSIOSÐPIEUP-SIOS-THIEUTHÖKHIEUKHÖHIEUHÐSSANGSIOS-PIEUPÐIEUNG-RIEUL
ÖHIEUHÐSSANGCIEUC-HIEUHÕTHIEUTHÐPHIEUPH-HIEUHÐHIEUH-SIOSÐSSANGYEORINHIEUH
=a980ÀJAVANESE k PANYANGGAÎCECAKÎLAYARÎWIGNYANÉvAÐI KAWIÑÑIÐUÐPA CEREKÐNGA LELETÙ RASWADIÐEÐAIÐO
ÐKAÒ SASAKÓMURDAÐGAÒ MURDAÐNGAÐCAÒ MURDAÐJAÐNYA MURDAÐJA MAHAPRANAÐNYAÐTTAÓ MAHAPRANAÐDDA
Ó MAHAPRANAÐNA MURDAÐTAÒ MURDAÐDAÒ MAHAPRANAÐNAÐPAÒ MURDAÐBAÒ MURDAÐMAÐYAÐRAÒ AGUNGÐLAÐWAÐSA MURDA
ÔAHAPRANAÒÐHAÉk CECAK TELUÉyk TARUNGÕOLONGÔWULUØ MELIKÔSUKUØ MENDUTÔTALINGÔDIRGA MUREÔPEPET
ÉCONSONANT k KERETØPENGKALØCAKRAÉPANGKONÉpRERENGGANÉm RERENGGANÉPADA ANDAPÎMADYAÎLUHURÎWINDU
ÎPANGKATÎLINGSAÏUNGSIÎADEGÒ ADEGÎPISELEHÉTURNED PADA PISELEH=a9cfÉPANGRANGKEPÉDIGIT ZEROÏONEÏTWO
ÐHREEÏFOURÐIVEÏSIXÐEVENÏEIGHTÏNINE=a9deÉPADA TIRTA TUMETESÎISEN-ISENÀMYANMARbSHAN GHAÔCHAÔJHAÔNNA
ÔBHAÈk SHAN SAWÈMODIFIERbSHAN REDUPLICATIONÈvTAI LAING NYAÙFAÙGAÚHAÙJAÚHAÙDDAÛHAÙNNA
ÈTAI LAING DIGIT ZEROØONEØTWOÙHREEØFOURÙIVEØSIXÙEVENØEIGHTØNINEÈvTAI LAING LLAÙDAÚHAÙBAÚHA
=aa00ÀCHAMbAÌIÌUÌEÌAIÌOÌKAÍHAÌGAÍHAÌNGUEÎAÌCHAÎHAÌJAÍHAÌNHUEÎAÎJAÌTAÍHAÌDAÍHAÌNUEÍAÌDDAÌPAÍPAÍHA
ÌBAÍHAÌMUEÍAÌBBAÌYAÌRAÌLAÌVAÌSSAÍAÌHAÅyk AAÐIÑIÐEIÐUÐOEÑÐAIÑUÐUEÅCONSONANT k YAÔRAÔLAÔWA
=aa40ÅvFINAL KÒGÒNGÅCONSONANT k FINAL NGÅvFINAL CHÒTÒNÒPÒYÒRÒLÒSSÅCONSONANT k FINAL MÚH
=aa50ÅDIGIT ZEROËONEËTWOÌHREEËFOURÌIVEËSIXÌEVENËEIGHTËNINE=aa5cÅPUNCTUATION SPIRALÑDANDA
ÒOUBLE DANDAÑTRIPLE DANDAÀMYANMARbKHAMTI GAÖCA×HAÖJA×HAÖNYAÖTTAØHAÖDDAØHA×HAÖNAÖSAÖHA×HAÖFA
ÈMODIFIERbKHAMTI REDUPLICATIONÈvKHAMTI XAÖZAÖRAÉOGOGRAM KHAMTI OAYØQNØHMÈz AITON EXCLAMATIONÕONE
ÕTWOÈvAITON RAÈk PAO KAREN TONEÍTAI LAING TONE-2Ü5ÈvSHWE PALAUNG CHAÜSHAÀTAI VIETbLOW KOÐHIGH KO
ÐLOW KHOÐHIGH KHOÐLOW KHHOÐHIGH KHHOÐLOW GOÐHIGH GOÐLOW NGOÐHIGH NGOÐLOW COÐHIGH COÐLOW CHO
ÐHIGH CHOÐLOW SOÐHIGH SOÐLOW NYOÐHIGH NYOÐLOW DOÐHIGH DOÐLOW TOÐHIGH TOÐLOW THOÐHIGH THOÐLOW NO
ÐHIGH NOÐLOW BOÐHIGH BOÐLOW POÐHIGH POÐLOW PHOÐHIGH PHOÐLOW FOÐHIGH FOÐLOW MOÐHIGH MOÐLOW YO
ÐHIGH YOÐLOW ROÐHIGH ROÐLOW LOÐHIGH LOÐLOW VOÐHIGH VOÐLOW HOÐHIGH HOÐLOW OÐHIGH OÉMAI KANGÉyAAÏI
ÏUEÐÏEÏOÉMAI KHITÉyIAÏUEAÐAÏAUEÐYÐNÐMÉTONE MAI EKÒNUENGÒTHOÒSONG=aadbÉz KONÐNUENGÐSAMÐHO HOI
ÐKOI KOIÀMEETEI MAYEKbEÔOÔCHAÔNYAÔTTAÖHAÔDDAÖHAÔNNAÔSHAÕSAÍyk IIØUUØAAIÙUÙAUÍCHEIKHANÍAHANG KHUDAM
ÎNJIÍSYLLABLE REPETITION MARKÍWORD REPETITION MARKÍyk VISARGAÎIRAMA=ab01ÀETHIOPIC SYLLABLE TTHUÕI
ÕAAÕEEÖÕO=ab09ÒDDHUÕIÕAAÕEEÖÕO=ab11ÓZUÔIÔAAÔEEÕÔO=ab20ÒCCHHAÖUÖIÖAAÖEE×ÖO=ab28ÒBBAÔUÔIÔAAÔEEÕÔO
=ab30ÀLATIN dbBARRED ALPHAÓA REVERSED-SCHWAÓBLACKvEÔARRED EÓEaFLOURISHÓLENIS F
ÓSCRIPT GaCROSSED-TAILÓLaINVERTED LAZY SÚnMIDDLE TILDEÚMIDDLE RINGÓMaCROSSED-TAILÓNaCROSSED-TAIL
ÓENGaCROSSED-TAILÓBLACKvOàawÓOPEN OawÓINVERTED OEÓTURNED OEawâHORIZONTAL wÛ OPEN-OâawÓSTIRRUP R
Ævd c Ram LEGÆdbR WITHOUT HANDLEÓnRÓRaCROSSED-TAILÓnRaCROSSED-TAILÓSCRIPT RÛaRINGÓBASELINE ESH
ÓUaSHORT m LEGÕBARaSHORT m LEGÔIÓTURNED UIÓUapHOOKÓCHIÖaLOW m RINGàpSERIFÓXaLOW m RINGÜNG pLEG
çfLOW m RINGèWITH SERIFÓYaSHORT m LEGÀMODIFIER BREVEaINVERTED BREVEÉvd HENGÖLaINVERTED LAZY S
ÝMIDDLE TILDEÖUapHOOKÀLATIN dbSAKHA YATÓIOTIFIED EÓOPEN OEÓUOÓINVERTED ALPHAÀGREEKbd c OMEGA
ÀLATIN dbDZ DIGRAPHaRETROFLEX HOOKÓTS DIGRAPHaRETROFLEX HOOKÔURNED RaMIDDLE TILDE
ÀMODIFIERbd TURNED WÐpTACKÐm TACK=ab70ÀCHEROKEE dbAÖEÖIÖOÖUÖVÖGAÖKAÖGE×I×O×U×VÖHA×E×I×O×U×VÖLA×E×I
×O×U×VÖMA×E×I×O×UÖNAÖHNAÖNAH×E×I×O×U×VÖQUAØEØIØOØUØVÖSA××E×I×O×U×VÖDAÖTAÖDEÖTEÖDIÖTIÖDO×U×V×LAÖTLA
ØEØIØOØUØV×SAØEØIØOØUØVÖWA×E×I×O×U×VÖYAÀMEETEI MAYEKbKOKÔSAMÔLAIÔMITÔPAÔNAÔCHILÔTILÔKHOUÔNGOUÔTHOU
ÔWAIÔYANGÔHUKÔUNÔIÔPHAMÔATIYAÔGOKÔJHAMÔRAIÔBAÔJILÔDILÔGHOUÔDHOUÔBHAMÔKOK LONSUMÔLAI LONSUM
ÔMIT LONSUMÔPA LONSUMÔNA LONSUMÔTIL LONSUMÔNGOU LONSUMÔI LONSUMÍyk ONAPØINAPØANAPØYENAPØSOUNAP
ØUNAPØCHEINAPØNUNGÍCHEIKHEIÍLUM IYEKÍAPUN IYEK=abf0ÍDIGIT ZEROÓONEÓTWOÔHREEÓFOURÔIVEÓSIXÔEVEN
ÓEIGHTÓNINE=d7b0ÀHANGUL JUNGSEONG O-YEOÓO-IÑYO-AÕEÔEOÑU-YEOÓI-IÑYU-AEÔOÑEU-AÔEOÕÔOÑI-YA-OÕEÔEOÕ
ÓO-IÓYOÔUÓIÑARAEA-A×E=d7cbÈONGSEONG NIEUN-RIEUL×CHIEUCHÑSSANGTIKEUTÜ-PIEUPÑTIKEUT-PIEUPØSIOS
Ü-KIYEOKØCIEUCÙHIEUCHØTHIEUTHÑRIEUL-SSANGKIYEOK×KIYEOK-HIEUHÑSSANGRIEUL-KHIEUKHÑRIEUL-MIEUM-HIEUH
×PIEUP-TIKEUTÝPHIEUPH×YESIEUNGÙORINHIEUH-HIEUHÑKAPYEOUNRIEULÑMIEUM-NIEUN×SSANGNIEUNÑSSANGMIEUM
ÑMIEUM-PIEUP-SIOS×CIEUCÑPIEUP-TIKEUT×RIEUL-PHIEUPH×MIEUMÑSSANGPIEUPÑPIEUP-SIOS-TIKEUT×CIEUCØHIEUCH
ÑSIOS-MIEUMÖKAPYEOUNPIEUPÒSANGSIOS-KIYEOKÛTIKEUTÒIOS-PANSIOSÖCIEUC×HIEUCHÖTHIEUTHÖHIEUH
ÑPANSIOS-PIEUPÙKAPYEOUNPIEUPÑYESIEUNG-MIEUMÚHIEUHÑCIEUC-PIEUP×SSANGPIEUPÑSSANGCIEUCÑPHIEUPH-SIOS
ÙTHIEUTH=fb00ÀLATIN d LIGATURE FFÖIÖLÖFI×LÕLONG S TÕST=fb13ÀARMENIAN d LIGATURE MEN NOWÜECHÜINI
ØVEW NOWØMEN XEH=fb1dÀHEBREWbYODaHIRIQÇPOINT JUDEO-SPANISH VARIKAÇLIGATURE YIDDISH YOD YOD PATAH
ÈETTER ALTERNATIVE AYINÎWIDE ALEFÓDALETÓHEÓKAFÓLAMEDÓFINAL MEMÓRESHÓTAVÎALTERNATIVE PLUS k
ÎSHINaSHIN DOTÙIN DOTØDAGESHfSHIN DOTäIN DOTÎALEFaPATAHØQAMATSØMAPIQÎBETaDAGESHÎGIMELaDAGESH
ÎDALETaDAGESHÎHEaMAPIQÎVAVaDAGESHÎZAYINaDAGESH=fb38ÎTETaDAGESHÎYODaDAGESHÎFINAL KAFaDAGESH
ÎKAFaDAGESHÎLAMEDaDAGESH=fb3eÎMEMaDAGESH=fb40ÎNUNaDAGESHÎSAMEKHaDAGESH=fb43ÎFINAL PEaDAGESH
ÎPEaDAGESH=fb46ÎTSADIaDAGESHÎQOFaDAGESHÎRESHaDAGESHÎSHINaDAGESHÎTAVaDAGESHÎVAVaHOLAMÎBETaRAFE
ÎKAFaRAFEÎPEaRAFEÈIGATURE ALEF LAMEDÀARABICbALEF WASLAeÙhÎBEEHeÓhÓiÓMEDIAL FORMÎPEHeÒhÒi
ÒMEDIAL FORMÎBEHEHeÔhÔiÔMEDIAL FORMÎTTEHEHeÕhÕiÕMEDIAL FORMÏEHEHeÔhÔiÔMEDIAL FORMÏTEHeÓhÓi
ÓMEDIAL FORMÎVEHeÒhÒiÒMEDIAL FORMÎPEHEHeÔhÔiÔMEDIAL FORMÎDYEHeÓhÓiÓMEDIAL FORMÎNYEHeÓhÓi
ÓMEDIAL FORMÎTCHEHeÔhÔiÔMEDIAL FORMÓEHeÖhÖiÖMEDIAL FORMÎDDAHALeÕhÏAHALeÔhÏULeÒhÏDALeÓhÎJEHeÒh
ÎRREHeÓhÎKEHEHeÔhÔiÔMEDIAL FORMÎGAFeÒhÒiÒMEDIAL FORMÏUEHeÓhÓiÓMEDIAL FORMÎNGOEHeÔhÔiÔMEDIAL FORM
ÏOON GHUNNAeÚhÎRNOONeÔhÔiÔMEDIAL FORMÎHEHaYEHleáhÒGOALe×h×i×MEDIAL FORMÒDOACHASHMEEeÞhÞi
ÞMEDIAL FORMÎYEH BARREEeÙhÙWITH HAMZAleêhÇz DOTlÒBELOWÎTWO DOTSl×BELOWÏHREE DOTSlÙBELOW
ÙPOINTING DOWNWARDSlìBELOWÎFOUR DOTSlØBELOWÎnt BARoÎTWO DOTS tLYlâBELOWÎRINGÎd TAHlØBELOWÎWASLAl
=fbd3ÇvNGeÑhÑiÑMEDIAL FORMÎUeÐhÎOEeÑhÎYUeÑhÎUaHAMZAleÎVEeÑhÎKIRGHIZ OEeÙhÖYUeÙhÎEeÐhÐiÐMEDIAL FORM
ÎUIGHUR KAZAKH KIRGHIZ ALEF MAKSURA iñMEDIAL FORMÈIGATURE YEHaHAMZAlaALEFeïhëEeíhêWAWeîhêUeìhêOEe
íhêYUeíhêEeìhìiÐUIGHUR KIRGHIZ YEHaHAMZAlaALEF MAKSURAeĆhĆiÈETTER FARSI YEHeØhØiØMEDIAL FORM
ÈIGATURE YEHaHAMZAlaJEEMeêHAHeêMEEMeêALEF MAKSURAeêYEHeÐBEHaJEEMeÙHAHeÙKHAHeÙMEEMeÙALEF MAKSURAe
ÙYEHeÐTEHaJEEMeÙHAHeÙKHAHeÙMEEMeÙALEF MAKSURAeÙYEHeÑHEHaJEEMeÚMEEMeÚALEF MAKSURAeÚYEHeÐJEEMaHAHe
ÚMEEMeÐHAHaJEEMeÙMEEMeÐKHAHaJEEMeÚHAHeÚMEEMeÐSEENaJEEMeÚHAHeÚKHAHeÚMEEMeÑADaHAHeÙMEEMeÐDADaJEEMe
ÙHAHeÙKHAHeÙMEEMeÐTAHaHAHeÙMEEMeÐZAHaMEEMeÐAINaJEEMeÙMEEMeÐGHAINaJEEMeÛMEEMeÐFEHaJEEMeÙHAHeÙKHAHe
ÙMEEMeÙALEF MAKSURAeÙYEHeÐQAFaHAHeÙMEEMeÙALEF MAKSURAeÙYEHeÐKAFaALEFeÙJEEMeÙHAHeÙKHAHeÙLAMeÙMEEMe
ÙALEF MAKSURAeÙYEHeÐLAMaJEEMeÙHAHeÙKHAHeÙMEEMeÙALEF MAKSURAeÙYEHeÐMEEMaJEEMeÚHAHeÚKHAHeÚMEEMe
ÚALEF MAKSURAeÚYEHeÐNOONaJEEMeÚHAHeÚKHAHeÚMEEMeÚALEF MAKSURAeÚYEHeÐHEHaJEEMeÙMEEMeÙALEF MAKSURAe
ÙYEHeÐYEHaJEEMeÙHAHeÙKHAHeÙMEEMeÙALEF MAKSURAeÙYEHeÐTHALaSUPERSCRIPT ALEFeÐREHaSUPERSCRIPT ALEFe
ÐALEF MAKSURAaSUPERSCRIPT ALEFeÐSHADDAaDAMMATANeÜKASRATANeÜFATHAeÜDAMMAeÜKASRAeÜSUPERSCRIPT ALEFe
ÐYEHaHAMZAlaREH hêZAIN hêMEEM hêNOON hêALEF MAKSURA hêYEH hÐBEHaREH hÙZAIN hÙMEEM hÙNOON h
ÙALEF MAKSURA hÙYEH hÐTEHaREH hÙZAIN hÙMEEM hÙNOON hÙALEF MAKSURA hÙYEH hÑHEHaREH hÚZAIN hÚMEEM h
ÚNOON hÚALEF MAKSURA hÚYEH hÐFEHaALEF MAKSURA hÙYEH hÐQAFaALEF MAKSURA hÙYEH hÐKAFaALEF hÙLAM h
ÙMEEM hÙALEF MAKSURA hÙYEH hÐLAMaMEEM hÙALEF MAKSURA hÙYEH hÐMEEMaALEF hÚMEEM hÐNOONaREH hÚZAIN h
ÚMEEM hÚNOON hÚALEF MAKSURA hÚYEH hÐALEF MAKSURAaSUPERSCRIPT ALEF hÐYEHaREH hÙZAIN hÙMEEM hÙNOON h
ÙALEF MAKSURA hÙYEH hÙHAMZAlaJEEM iêHAH iêKHAH iêMEEM iêHEH iÐBEHaJEEM iÙHAH iÙKHAH iÙMEEM iÙHEH i
ÐTEHaJEEM iÙHAH iÙKHAH iÙMEEM iÙHEH iÑHEHaMEEM iÐJEEMaHAH iÚMEEM iÐHAHaJEEM iÙMEEM iÐKHAHaJEEM i
ÚMEEM iÐSEENaJEEM iÚHAH iÚKHAH iÚMEEM iÑADaHAH iÙKHAH iÙMEEM iÐDADaJEEM iÙHAH iÙKHAH iÙMEEM i
ÐTAHaHAH iÐZAHaMEEM iÐAINaJEEM iÙMEEM iÐGHAINaJEEM iÛMEEM iÐFEHaJEEM iÙHAH iÙKHAH iÙMEEM i
ÐQAFaHAH iÙMEEM iÐKAFaJEEM iÙHAH iÙKHAH iÙLAM iÙMEEM iÐLAMaJEEM iÙHAH iÙKHAH iÙMEEM iÙHEH i
ÐMEEMaJEEM iÚHAH iÚKHAH iÚMEEM iÐNOONaJEEM iÚHAH iÚKHAH iÚMEEM iÚHEH iÐHEHaJEEM iÙMEEM i
ÙSUPERSCRIPT ALEF iÐYEHaJEEM iÙHAH iÙKHAH iÙMEEM iÙHEH iÚAMZAlaMEEM MEDIAL FORMêHEH MEDIAL FORM
ÐBEHaMEEM MEDIAL FORMÙHEH MEDIAL FORMÐTEHaMEEM MEDIAL FORMÙHEH MEDIAL FORMÑHEHaMEEM MEDIAL FORM
ÚHEH MEDIAL FORMÐSEENaMEEM MEDIAL FORMÚHEH MEDIAL FORMÑHEENaMEEM MEDIAL FORMÛHEH MEDIAL FORM
ÐKAFaLAM MEDIAL FORMÙMEEM MEDIAL FORMÐLAMaMEEM MEDIAL FORMÐNOONaMEEM MEDIAL FORMÚHEH MEDIAL FORM
ÐYEHaMEEM MEDIAL FORMÙHEH MEDIAL FORMÐSHADDAaFATHA MEDIAL FORMÜDAMMA MEDIAL FORMÜKASRA MEDIAL FORM
ÐTAHaALEF MAKSURAeÙYEHeÐAINaALEF MAKSURAeÙYEHeÐGHAINaALEF MAKSURAeÛYEHeÐSEENaALEF MAKSURAeÚYEHe
ÑHEENaALEF MAKSURAeÛYEHeÐHAHaALEF MAKSURAeÙYEHeÐJEEMaALEF MAKSURAeÚYEHeÐKHAHaALEF MAKSURAeÚYEHe
ÐSADaALEF MAKSURAeÙYEHeÐDADaALEF MAKSURAeÙYEHeÐSHEENaJEEMeÛHAHeÛKHAHeÛMEEMeÛREHeÑEENaREHeÑADaREHe
ÐDADaREHeÐTAHaALEF MAKSURA hÙYEH hÐAINaALEF MAKSURA hÙYEH hÐGHAINaALEF MAKSURA hÛYEH h
ÐSEENaALEF MAKSURA hÚYEH hÑHEENaALEF MAKSURA hÛYEH hÐHAHaALEF MAKSURA hÙYEH hÐJEEMaALEF MAKSURA h
ÚYEH hÐKHAHaALEF MAKSURA hÚYEH hÐSADaALEF MAKSURA hÙYEH hÐDADaALEF MAKSURA hÙYEH hÐSHEENaJEEM h
ÛHAH hÛKHAH hÛMEEM hÛREH hÑEENaREH hÑADaREH hÐDADaREH hÐSHEENaJEEM iÛHAH iÛKHAH iÛMEEM iÑEENaHEH i
ÑHEENaHEH iÐTAHaMEEM iÐSEENaJEEM MEDIAL FORMÚHAH MEDIAL FORMÚKHAH MEDIAL FORM
ÑHEENaJEEM MEDIAL FORMÛHAH MEDIAL FORMÛKHAH MEDIAL FORMÐTAHaMEEM MEDIAL FORMÐZAHaMEEM MEDIAL FORM
ÐALEFaFATHATAN hãISOLATED FORMÀORNATE pPARENTHESISÇm PARENTHESISÀARABIC LIGATURE RAHIMAHU ALLAAH
ÒDI ALLAAHU ANHàAAàUMâAAáNNAÐSALLALLAAHU ALAYHI WA-AALIHÐALAYHI AS-SALAAMÖM AS-SALAAM×AA AS-SALAAM
Ö AS-SALAATU WAS-SALAAMÐQUDDISA SIRRAHÐSALLALLAHU ALAYHI WAAALIHEE WA-SALLAMÐALAYHAA AS-SALAAM
ÐTABAARAKA WA-TAAALAAÐRAHIMAHUM ALLAAHÐTEHaJEEMaMEEM iÙHAHaJEEM hçiâMEEM iÙKHAHaMEEM iÙMEEMaJEEM i
ãHAH iãKHAH iÐJEEMaMEEMaHAH hèiÐHAHaMEEMaYEH hãALEF MAKSURA hÐSEENaHAHaJEEM iÚJEEMaHAH i
äALEF MAKSURA hÚMEEMaHAH hèiäJEEM iäMEEM héiÑADaHAHaHAH hæiÙMEEMaMEEM hÑHEENaHAHaMEEM héi
ÛJEEMaYEH hÛMEEMaKHAH hêiåMEEM hêiÐDADaHAHaALEF MAKSURA hÙKHAHaMEEM hèiÐTAHaMEEMaHAH hçiãMEEM i
ãYEH hÐAINaJEEMaMEEM hÙMEEMaMEEM hèiãALEF MAKSURA hÐGHAINaMEEMaMEEM håYEH håALEF MAKSURA h
ÐFEHaKHAHaMEEM hèiÐQAFaMEEMaHAH hãMEEM hÐLAMaHAHaMEEM hâYEH hâALEF MAKSURA hÙJEEMaJEEM ièh
ÙKHAHaMEEM hèiÙMEEMaHAH hçiÐMEEMaHAHaJEEM iãMEEM iãYEH hÚJEEMaHAH iäMEEM iÚKHAHaJEEM iäMEEM i
=fd92ÚJEEMaKHAH iÐHEHaMEEMaJEEM iãMEEM iÐNOONaHAHaMEEM iãALEF MAKSURA hÚJEEMaMEEM héi
äALEF MAKSURA hÚMEEMaYEH häALEF MAKSURA hÐYEHaMEEMaMEEM hèiÐBEHaKHAHaYEH hÐTEHaJEEMaYEH h
ãALEF MAKSURA hÙKHAHaYEH hãALEF MAKSURA hÙMEEMaYEH hãALEF MAKSURA hÐJEEMaMEEMaYEH h
ÚHAHaALEF MAKSURA hÚMEEMaALEF MAKSURA hÐSEENaKHAHaALEF MAKSURA hÑADaHAHaYEH hÑHEENaHAHaYEH h
ÐDADaHAHaYEH hÐLAMaJEEMaYEH hÙMEEMaYEH hÐYEHaHAHaYEH hÙJEEMaYEH hÙMEEMaYEH hÐMEEMaMEEMaYEH h
ÐQAFaMEEMaYEH hÐNOONaHAHaYEH hÐQAFaMEEMaHAH iÐLAMaHAHaMEEM iÐAINaMEEMaYEH hÐKAFaMEEMaYEH h
ÐNOONaJEEMaHAH iÐMEEMaKHAHaYEH hÐLAMaJEEMaMEEM iÐKAFaMEEMaMEEM hÐLAMaJEEMaMEEM hÐNOONaJEEMaHAH h
ÐJEEMaHAHaYEH hÐHAHaJEEMaYEH hÐMEEMaJEEMaYEH hÐFEHaMEEMaYEH hÐBEHaHAHaYEH hÐKAFaMEEMaMEEM i
ÐAINaJEEMaMEEM iÐSADaMEEMaMEEM iÑEENaKHAHaYEH hÐNOONaJEEMaYEH h=fdcfÐSALAAMUHU ALAYNAA
=fdf0ÓLA USED AS KORANIC STOP keÐQALA USED AS KORANIC STOP keÐALLAHeÑKBAReÐMOHAMMADeÐSALAMe
ÐRASOULeÐALAYHEeÐWASALLAMeÐSALLAeÕLLAHOU ALAYHE WASALLAMÐJALLAJALALOUHOUÀRIAL k
ÀARABIC LIGATURE BISMILLAH AR-RAHMAN AR-RAHEEMÐSUBHAANAHU WA TAAALAAÐAZZA WA JALL
ÀVARIATION SELECTOR-1Ó2Ó3Ó4Ó5Ó6Ó7Ó8Ó9Ó10Ô1Ô2Ô3Ô4Ô5Ô6ÀPRESENTATION FORM FOR t COMMA
ßIDEOGRAPHIC COMMAëFULL STOPßCOLONßSEMICOLONßEXCLAMATION MARKßQUESTION MARKßpuLENTICULAR BRACKET
ßm uLENTICULAR BRAKCETßHORIZONTAL ELLIPSIS=fe20ÀCOMBINING LIGATURE pHALFÓm HALFÊnTILDE pHALF
×m HALFÊMACRON pHALFÑm HALFÊCONJOINING MACRONÊLIGATURE pHALFoÓm HALFoÊTILDE pHALFoÐm HALFo
ÊMACRON pHALFoÑm HALFoÊCONJOINING MACRONoËYRILLIC TITLO pHALFÙm HALF
ÀPRESENTATION FORM FOR t TWO DOT LEADERßEM DASHàN DASHßLOW LINEßWAVY LOW LINEßpPARENTHESIS
ßm PARENTHESISßpCURLY BRACKETßm CURLY BRACKETßpTORTOISE SHELL BRACKETßm TORTOISE SHELL BRACKET
ßpxLENTICULAR BRACKETßm xLENTICULAR BRACKETßpnANGLE BRACKETßm nANGLE BRACKETßpANGLE BRACKET
ßm ANGLE BRACKETßpCORNER BRACKETßm CORNER BRACKETßpuCORNER BRACKETßm uCORNER BRACKETÀSESAME DOT
ÀuSESAME DOTÀPRESENTATION FORM FOR t pSQUARE BRACKETßm SQUARE BRACKETÀDASHED OVERLINE
ÀCENTRELINE OVERLINEÀWAVY OVERLINEÀnWAVY OVERLINEÁASHED LOW LINEÀCENTRELINE LOW LINEÀWAVY LOW LINE
Àd COMMAÆIDEOGRAPHIC COMMAÆFULL STOP=fe54ÆSEMICOLONÆCOLONÆQUESTION MARKÆEXCLAMATION MARKÇM DASH
ÆpPARENTHESISÆm PARENTHESISÆpCURLY BRACKETÆm CURLY BRACKETÆpTORTOISE SHELL BRACKET
Æm TORTOISE SHELL BRACKETÆNUMBER kÆAMPERSANDÇSTERISKÆPLUS kÆHYPHEN-MINUSÆLESS-THAN k
ÆGREATER-THAN kÆEQUALS k=fe68ÆREVERSE SOLIDUSÆDOLLAR kÆPERCENT kÆCOMMERCIAL AT
=fe70ÀARABIC FATHATANeÇTATWEELaFATHATANlÇDAMMATANeÇTAIL FRAGMENTÇKASRATANe=fe76ÇFATHAeÍMEDIAL FORM
ÇDAMMAeÍMEDIAL FORMÇKASRAeÍMEDIAL FORMÇSHADDAeÎMEDIAL FORMÈUKUNeÍMEDIAL FORMÇvHAMZAeÎALEFaMADDAle
ähØHAMZAleähÎWAWaHAMZAleãhÎALEFaHAMZAoeähÎYEHaHAMZAleãhãiãMEDIAL FORMÎALEFeÓhÎBEHeÒhÒiÒMEDIAL FORM
ÎTEH MARBUTAeÚhÒISOLATED FORMÒhÒiÒMEDIAL FORMÏHEHeÓhÓiÓMEDIAL FORMÎJEEMeÓhÓiÓMEDIAL FORMÎHAHeÒhÒi
ÒMEDIAL FORMÎKHAHeÓhÓiÓMEDIAL FORMÎDALeÒhÎTHALeÓhÎREHeÒhÎZAINeÓhÎSEENeÓhÓiÓMEDIAL FORMÏHEENeÔhÔi
ÔMEDIAL FORMÏADeÒhÒiÒMEDIAL FORMÎDADeÒhÒiÒMEDIAL FORMÎTAHeÒhÒiÒMEDIAL FORMÎZAHeÒhÒiÒMEDIAL FORM
ÎAINeÒhÒiÒMEDIAL FORMÎGHAINeÔhÔiÔMEDIAL FORMÎFEHeÒhÒiÒMEDIAL FORMÎQAFeÒhÒiÒMEDIAL FORMÎKAFeÒhÒi
ÒMEDIAL FORMÎLAMeÒhÒiÒMEDIAL FORMÎMEEMeÓhÓiÓMEDIAL FORMÎNOONeÓhÓiÓMEDIAL FORMÎHEHeÒhÒiÒMEDIAL FORM
ÎWAWeÒhÎALEF MAKSURAeÛhÎYEHeÒhÒiÒMEDIAL FORMÈIGATURE LAMaALEFaMADDAleïhãHAMZAleïhéBELOWeïh
ÞISOLATED FORMÞh=feffÀZERO WIDTH NO-BREAK SPACE=ff01ÀFULLWIDTH EXCLAMATION MARKÊQUOTATION MARK
ÊNUMBER kÊDOLLAR kÊPERCENT kÊAMPERSANDËPOSTROPHEÊpPARENTHESISÊm PARENTHESISÊASTERISKÊPLUS kÊCOMMA
ÊHYPHEN-MINUSÊFULL STOPÊSOLIDUSÊDIGIT ZEROÐONEÐTWOÑHREEÐFOURÑIVEÐSIXÑEVENÐEIGHTÐNINEÊCOLON
ÊSEMICOLONÊLESS-THAN kÊEQUALS kÊGREATER-THAN kÊQUESTION MARKÊCOMMERCIAL ATÊLATIN cbAßBßCßDßEßFßGßH
ßIßJßKßLßMßNßOßPßQßRßSßTßUßVßWßXßYßZËEFT SQUARE BRACKETÊREVERSE SOLIDUSËIGHT SQUARE BRACKET
ÊCIRCUMFLEX ACCENTÊLOW LINEÊGRAVE ACCENTÊLATIN dbAÝBÝCÝDÝEÝFÝGÝHÝIÝJÝKÝLÝMÝNÝOÝPÝQÝRÝSÝTÝUÝVÝWÝXÝY
ÝZËEFT CURLY BRACKETÊt LINEÊm CURLY BRACKETÊTILDEÊpuPARENTHESISÊm uPARENTHESIS
ÀHALFWIDTH IDEOGRAPHIC FULL STOPÊpCORNER BRACKETÊm CORNER BRACKETÊIDEOGRAPHIC COMMA
ÊKATAKANA MIDDLE DOTÓvWOÚd AàIàUàEàOàYAáUáOàTUÒ-HIRAGANA PROLONGED SOUND MARKÒbAÚIÚUÚEÚOÚKAÛIÛUÛE
ÛOÚSAÛIÛUÛEÛOÚTAÛIÛUÛEÛOÚNAÛIÛUÛEÛOÚHAÛIÛUÛEÛOÚMAÛIÛUÛEÛOÚYAÛUÛOÚRAÛIÛUÛEÛOÚWAÚNÓVOICED SOUND MARK
ÓSEMI-VOICED SOUND MARKÊHANGUL FILLERÑvKIYEOKØSSANGKIYEOKØKIYEOK-SIOSØNIEUNÝ-CIEUCÞHIEUHØTIKEUT
ØSSANGTIKEUTØRIEULÝ-KIYEOKÞMIEUMÞPIEUPÞSIOSÞTHIEUTHÞPHIEUPHÞHIEUHØMIEUMØPIEUPØSSANGPIEUP
ØPIEUP-SIOSØSIOSÙSANGSIOSØIEUNGØCIEUCØSSANGCIEUCØCHIEUCHØKHIEUKHØTHIEUTHØPHIEUPHØHIEUH=ffc2ØAÙEØYA
ÚEØEOÙ=ffcaØYEOÚØOØWAÚEØOE=ffd2ØYOØUØWEOÚÙIØYU=ffdaØEUØYIØI=ffe0ÀFULLWIDTH CENT kÊPOUND kÊNOT k
ÊMACRONÊBROKEN BARÊYEN kÊWON k=ffe8ÀHALFWIDTH FORMS LIGHT tÊrgÊUPWARDS gÊjgÊDOWNWARDS gÊxSQUARE
ÊuCIRCLE=fff9ÀINTERLINEAR ANNOTATION ANCHOR×SEPARATOR×TERMINATORÀOBJECT REPLACEMENT CHARACTER
ÀREPLACEMENT CHARACTER=10000ÀLINEAR B SYLLABLE B008 AÔ38 EÔ28 IÔ61 OÔ10 UÔ01 DAÔ45 DEÔ07 DIÔ14 DO
Ô51 DUÕ7 JAÔ46 JE=1000dÔ36 JOÔ65 JUÔ77 KAÔ44 KEÔ67 KIÔ70 KOÔ81 KUÕ0 MAÔ13 MEÔ73 MIÔ15 MOÔ23 MU
Ô06 NAÔ24 NEÔ30 NIÔ52 NOÕ5 NUÔ03 PAÔ72 PEÔ39 PIÔ11 POÔ50 PUÔ16 QAÔ78 QEÔ21 QIÔ32 QO=10028Ô60 RA
Ô27 REÔ53 RIÔ02 ROÔ26 RUÔ31 SAÔ09 SEÔ41 SIÔ12 SOÔ58 SUÕ9 TAÔ04 TEÔ37 TIÔ05 TOÔ69 TUÔ54 WAÔ75 WE
Ô40 WIÕ2 WO=1003cÔ17 ZAÔ74 ZE=1003fÔ20 ZOÕ5 A2Ô43 A3Ô85 AUÔ71 DWEÔ90 DWOÔ48 NWAÔ29 PU2Ô62 PTE
Ô76 RA2Ô33 RA3Ô68 RO2Õ6 TA2Ô87 TWEÔ91 TWO=10050ËMBOL B018Ó9Ò22Ò34Ò47Ó9Ò56Ò63Ó4Ò79Ò82Ó3Ó6Ó9
=10080ÉIDEOGRAM B100 MANÕ2 WOMANÕ4 DEERÕ5 EQUIDÖF MAREÖM STALLIONÕ6F EWEÖM RAMÕ7F SHE-GOAT
ÖM HE-GOATÕ8F SOWÖM BOARÕ9F COWÖM BULLÔ20 WHEATÕ1 BARLEYÕ2 OLIVEÕ3 SPICEÕ5 CYPERUS
ÉMONOGRAM B127 KAPOÕ8 KANAKOÉIDEOGRAM B130 OILÕ1 WINEÕ2ÉMONOGRAM B133 AREPAÕ5 MERI
ÉIDEOGRAM B140 BRONZEÕ1 GOLDÕ2Õ5 WOOLÕ6Ô50Õ1 HORNÕ2Õ3Õ4ÉMONOGRAM B156 TURO2ÉIDEOGRAM B157Õ8
Õ9 CLOTHÔ60Õ1Õ2 GARMENTÕ3 ARMOURÕ4Õ5Õ6Õ7Õ8Õ9Ô70Õ1Õ2Õ3 MONTHÕ4Õ6 TREEÕ7Õ8Õ9Ô80Õ1Õ2Õ3Õ4Õ5Õ9Ô90
Õ1 HELMETÓ220 FOOTSTOOLÕ5 BATHTUBÔ30 SPEARÕ1 gÕ2Õ3 SWORDÕ4Õ6Ô40 WHEELED CHARIOTÕ1 CHARIOT
Õ2 CHARIOT FRAMEÕ3 WHEELÕ5Õ6ÉMONOGRAM B247 DIPTEÉIDEOGRAM B248Õ9Ô51Õ2Õ3Õ4 DARTÕ5Õ6Õ7Õ8Õ9
ÒVESSEL B155Ú200Ü1Ü2Ü3Ü4Ü5Ü6Ü7Ü8Ü9Û10Ü1Ü2Ü3Ü4Ü5Ü6Ü7Ü8Ü9Û21Ü2Ü6Ü7Ü8Ü9Û50Ú305
=10100ÀAEGEAN WORD SEPARATOR LINEÖDOTÇCHECK MARK=10107ÇNUMBER ONEÎTWOÏHREEÎFOURÏIVEÎSIXÏEVENÎEIGHT
ÎNINEÎTENÏWENTYÏHIRTYÎFORTYÏIFTYÎSIXTYÏEVENTYÎEIGHTYÎNINETYÎONE HUNDREDÎTWO HUNDREDÏHREE HUNDRED
ÎFOUR HUNDREDÏIVE HUNDREDÎSIX HUNDREDÏEVEN HUNDREDÎEIGHT HUNDREDÎNINE HUNDREDÎONE THOUSAND
ÎTWO THOUSANDÏHREE THOUSANDÎFOUR THOUSANDÏIVE THOUSANDÎSIX THOUSANDÏEVEN THOUSANDÎEIGHT THOUSAND
ÎNINE THOUSANDÎTEN THOUSANDÏWENTY THOUSANDÏHIRTY THOUSANDÎFORTY THOUSANDÏIFTY THOUSAND
ÎSIXTY THOUSANDÏEVENTY THOUSANDÎEIGHTY THOUSANDÎNINETY THOUSAND=10137ÇWEIGHT BASE UNIT
ÎFIRST SUBUNITÎSECOND SUBUNITÎTHIRD SUBUNITÎFOURTH SUBUNITÇDRY MEASURE FIRST SUBUNIT
ÇLIQUID MEASURE FIRST SUBUNITÇMEASURE SECOND SUBUNITÏTHIRD SUBUNIT
ÀGREEK ACROPHONIC ATTIC ONE QUARTERÛHALFÛDRACHMA×FIVEÙFTYÙVE HUNDREDÜTHOUSANDÙFTY THOUSAND
ÙVE TALENTS×TEN TALENTS×FIFTY TALENTS×ONE HUNDRED TALENTS×FIVE HUNDRED TALENTS
×ONE THOUSAND TALENTS×FIVE THOUSAND TALENTSÜSTATERS×TEN STATERS×FIFTY STATERS×ONE HUNDRED STATERS
×FIVE HUNDRED STATERS×ONE THOUSAND STATERS×TEN THOUSAND STATERS×FIFTY THOUSAND STATERS×TEN MNAS
ÑHERAEUM ONE PLETHRONÑTHESPIAN ONEÑHERMIONIAN ONEÑEPIDAUREAN TWOÑTHESPIAN TWO
ÑCYRENAIC TWO DRACHMASÑEPIDAUREAN TWO DRACHMASÑTROEZENIAN FIVEÜTENß ALTERNATE FORMÑHERMIONIAN TEN
ÑMESSENIAN TENÑTHESPIAN TENÛHIRTYÒROEZENIAN FIFTYá ALTERNATE FORMÑHERMIONIAN FIFTYÑTHESPIAN FIFTY
ÚONE HUNDREDÚTHREE HUNDREDÑEPIDAUREAN FIVE HUNDREDÑTROEZENIAN FIVE HUNDREDÒHESPIAN FIVE HUNDRED
ÑCARYSTIAN FIVE HUNDREDÑNAXIAN FIVE HUNDREDÑTHESPIAN ONE THOUSANDÚFIVE THOUSANDÑDELPHIC FIVE MNAS
ÑSTRATIAN FIFTY MNASÆONE HALF kÓ ALTERNATE FORMÆTWO THIRDS kÇHREE QUARTERS kÆYEAR kÆTALENT k
ÆDRACHMA kÆOBOL kÆTWO OBOLS kÇHREE OBOLS kÆFOUR OBOLS kÇIVE OBOLS kÆMETRETES kÆKYATHOS BASE k
ÆLITRA kÆOUNKIA kÆXESTES kÆARTABE kÈOURA kÆGRAMMA kÆTRYBLION BASE kÆZERO kÆONE QUARTER k
ÆSINUSOID kÆINDICTION kÀNOMISMA k=10190ÀROMAN SEXTANS kÆUNCIA kÆSEMUNCIA kÈXTULA k
ÆDIMIDIA SEXTULA kÆSILIQUA kÆDENARIUS kÆQUINARIUS kÆSESTERTIUS kÆDUPONDIUS kÆAS kÆCENTURIAL k
ÀASCIA z=101a0ÀGREEK z TAU RHO=101d0ÀPHAISTOS DISC k PEDESTRIANÔLUMED HEADÓTATTOOED HEADÓCAPTIVE
ÔHILDÓWOMANÓHELMETÓGAUNTLETÓTIARAÓgÓBOWÓSHIELDÓCLUBÓMANACLESÕTTOCKÓSAWÓLIDÓBOOMERANG
ÓCARPENTRY PLANEÓDOLIUMÓCOMBÓSLINGÓCOLUMNÓBEEHIVEÓSHIPÓHORNÔIDEÓBULLS LEGÓCATÓRAMÓEAGLEÓDOVEÓTUNNY
ÓBEEÓPLANE TREEÓVINEÓPAPYRUSÓROSETTEÓLILYÓOX BACKÓFLUTEÓGRATERÓSTRAINERÔMALL AXEÓWAVY BAND
ÓCOMBINING OBLIQUE w=10280ÀLYCIANbAÎEÎBÏHÎGÎDÎIÎWÎZÎTHÎJÎKÎQÎLÎMÎNÎMMÎNNÎUÎPÎKKÎRÎSÎTÏTÎANÎENÎHÎX
=102a0ÀCARIANbAÎP2ÎDÎLÎUUUÎRÎLDÎA2ÎQÎBÎMÎOÎD2ÎTÎSHÐ2ÏÎC-18ÎUÎNNÎXÎNÎTT2ÎPÎSSÎIÎEÎUUUUÎKÏ2ÎNDÎUUÎG
Ï2ÎSTÐ2ÎNGÎIIÎC-39ÎTTÎUUU2ÎRRÎMBÐ2Ð3Ð4ÎLD2ÎE2ÎUUU3=102e0ÁOPTIC EPACT THOUSANDS MARKÍDIGIT ONEÓTWO
ÔHREEÓFOURÔIVEÓSIXÔEVENÓEIGHTÓNINEÍNUMBER TENÕWENTYÕHIRTYÔFORTYÕIFTYÔSIXTYÕEVENTYÔEIGHTYÔNINETY
ÔONE HUNDREDÔTWO HUNDREDÕHREE HUNDREDÔFOUR HUNDREDÕIVE HUNDREDÔSIX HUNDREDÕEVEN HUNDRED
ÔEIGHT HUNDREDÔNINE HUNDRED=10300ÀOLD ITALICbAÒBEÒKEÒDEÒEÒVEÒZEÒHEÒTHEÒIÒKAÒELÓMÓNÓSHÒOÒPEÒSHEÒKU
ÒERÓSÒTEÒUÒEKSÒPHEÒKHEÒEFÓRSÒCHEÒIIÒUUÒESSËNUMERAL ONEÓFIVEÓTENÓFIFTY=1032dËvYEÒNORTHERN TSE
ÒSOUTHERN TSEÀGOTHICbAHSAÎBAIRKANÎGIBAÎDAGSÎAIHVUSÎQAIRTHRAÎIUJAÎHAGLÎTHIUTHÎEISÎKUSMAÎLAGUSÎMANNA
ÎNAUTHSÎJERÎURUSÎPAIRTHRAÎNINETYÎRAIDAÎSAUILÎTEIWSÎWINJAÎFAIHUÎIGGWSÎHWAIRÎOTHALÎNINE HUNDRED
=10350ÀOLD PERMICbANÒBURÒGAIÒDOIÒEÒZHOIÒDZHOIÒZATAÒDZITAÒIÒKOKEÒLEIÒMENOEÒNENOEÒVOOIÒPEEIÒREIÒSII
ÒTAIÒUÒCHERYÒSHOOIÔCHOOIÒYRYÓERUÒOÓOÒEFÒHAÒTSIUÒVERÒYERÕIÓATÒIEÒYUÓAÒIAÀCOMBINING OLD PERMICbAN
ÜDOIÜZATAÜNENOEÜSII=10380ÀUGARITICbALPAÐBETAÐGAMLAÐKHAÐDELTAÐHOÐWOÐZETAÐHOTAÐTETÐYODÐKAFÐSHIN
ÐLAMDAÐMEMÐDHALÐNUNÐZUÐSAMKAÐAINÐPUÐSADEÐQOPAÐRASHAÐTHANNAÐGHAINÐTOÐIÐUÐSSU=1039fÉWORD DIVIDER
ÀOLD PERSIAN k AÑIÑUÑKAÒUÑGAÒUÑXAÑCAÑJAÒIÑTAÒUÑDAÒIÒUÑTHAÑPAÑBAÑFAÑNAÒUÑMAÒIÒUÑYAÑVAÒIÑRAÒUÑLAÑSA
ÑZAÑSHAÒSAÑHA=103c8ÑAURAMAZDAAÛ-2ÛHAÑXSHAAYATHIYAÑDAHYAAUSHÚ-2ÑBAGAÒUUMISHÌWORD DIVIDERÌNUMBER ONE
ÓTWOÔENÔWENTYÓHUNDRED=10400ÀDESERET cbLONG IÜEÜAÝHÜOÝO×SHORT IÝEÝAÞHÝOÞO×AY×OW×WU×YEE×H×PEE×BEE
×TEE×DEE×CHEE×JEE×KAY×GAY×EF×VEE×ETH×THEE×ES×ZEE×ESH×ZHEE×ERØLØMØNÙG×OI×EWÈdbLONG IÚEÚAÛHÚOÛO
ÕSHORT IÛEÛAÜHÛOÜOÕAYÕOWÕWUÕYEEÕHÕPEEÕBEEÕTEEÕDEEÕCHEEÕJEEÕKAYÕGAYÕEFÕVEEÕETHÕTHEEÕESÕZEEÕESHÕZHEE
ÕERÖLÖMÖN×GÕOIÕEWÀSHAVIANbPEEPÏTOTÏKICKÏFEEÏTHIGHÏSOÐUREÏCHURCHÏYEAÏHUNGÏBIBÏDEADÏGAGÏVOWÏTHEYÏZOO
ÏMEASUREÏJUDGEÏWOEÏHA-HAÏLOLLÏMIMEÏIFÏEGGÏASHÐDOÏONÏWOOLÏOUTÏAHÏROARÏNUNÏEATÏAGEÏICEÏUPÏOAKÐOZEÐIL
ÏAWEÐREÏORÏAIRÏERRÏARRAYÏEARÏIANÏYEWÀOSMANYAbALEFÏBAÏTAÏJAÏXAÏKHAÏDEELÏRAÏSAÐHIINÏDHAÏCAYNÏGAÏFA
ÏQAAFÏKAAFÏLAANÏMIINÏNUUNÏWAWÏHAÏYAÏAÏEÏIÏOÏUÏAAÏEEÏOO=104a0ÈDIGIT ZEROÎONEÎTWOÏHREEÎFOURÏIVEÎSIX
ÏEVENÎEIGHTÎNINE=104b0ÂAGE cbAÖI×NÖHÕBRAÕCHAÕEHCHAÖÖINÕHAÖYAÕIÕKAÕEHKAÕKYAÕLAÕMAÕNAÕOÖINÕPAÕEHPA
ÕSAÖHAÕTAÕEHTAÕTSAÕEHTSAÕTSHAÕDHAÕUÕWAÕKHAÕGHAÕZAÖHA=104d8ÆdbAÔIÕNÔHÓBRAÓCHAÓEHCHAÔÔINÓHAÔYAÓIÓKA
ÓEHKAÓKYAÓLAÓMAÓNAÓOÔINÓPAÓEHPAÓSAÔHAÓTAÓEHTAÓTSAÓEHTSAÓTSHAÓDHAÓUÓWAÓKHAÓGHAÓZAÔHA
=10500ÀELBASANbAÏBEÏCEÐHEÏDEÏNDEÏDHEÏEIÐÏFEÏGEÐJEÏHEÏIÏJEÏKEÏLEÐLEÏMEÏNEÐAÐJEÏOÏPEÏQEÏREÐREÏSEÐHE
ÏTEÐHEÏUÏVEÏXEÏYÏZEÐHEÏGHEÑAMMAÏKHE=10530ÀCAUCASIAN ALBANIANbALTÚBETÚGIMÚDATÚEBÚZARLÚEYNÚZHILÚTAS
ÚCHAÚYOWDÚZHAÚIRBÚSHAÚLANÚINYAÚXEYNÚDYANÚCARÚJHOXÚKARÚLYITÚHEYTÚQAYÚAORÚCHOYÜIÛYAYÚMAQÚQARÚNOWC
ÚDZYAYÚSHAKÚJAYNÚONÚTYAYÚFAMÚDZAYÚCHATÚPENÚGHEYSÚRATÚSEYKÚVEYZÚTIWRÚSHOYÚIWNÚCYAWÛAYNÚYAYDÚPIWR
ÚKIW=1056fÓCITATION MARKÀVITHKUQI cbAØBBEÙEØCEÙHEØDEÙHEØEIÙØFEØGA=1057cØHAÙHAØIÙJEØJEØKAØLAÙLAØME
ØNEÙJEØOØPEØQAØRE=1058cØSEÙHEØTEÙHEØUØVEØXE=10594ØYØZE=10597ÉdbAÖBBE×EÖCE×HEÖDE×HEÖEI×ÖFEÖGA
=105a3ÖHA×HAÖI×JEÖJEÖKAÖLA×LAÖMEÖNE×JEÖOÖPEÖQAÖRE=105b3ÖSE×HEÖTE×HEÖUÖVEÖXE=105bbÖYÖZE
=10600ÀLINEAR A k AB001Ò2Ò3Ò4Ò5Ò6Ò7Ò8Ò9Ñ10Ò1Ò3Ò6Ò7Ñ20Ò1ÓFÓMÒ2ÓFÓMÒ3ÓMÒ4Ò6Ò7Ò8Ï028BÏB029Ñ30Ò1Ò4Ò7Ò8
Ò9Ñ40Ò1Ò4Ò5Ò6Ò7Ò8Ò9Ñ50Ò1Ò3Ò4Ò5Ò6Ò7Ò8Ò9Ñ60Ò1Ò5Ò6Ò7Ò9Ñ70Ò3Ò4Ò6Ò7Ò8Ò9Ñ80Ò1Ò2Ò5Ò6Ò7Ï100-102ÏB118Ñ20
Ï120BÏB122Ò3Ñ31AÓBÏ131CÏB164Ñ71Ñ80Ò8Ñ91Ï301Ñ2Ñ3Ñ4Ñ5Ñ6Ñ7Ñ8Ñ9AÒBÒCÐ10Ñ1Ñ2Ñ3AÒBÒCÑ4Ñ5Ñ6Ñ7Ñ8Ñ9Ð20Ñ1Ñ2
Ñ3Ñ4Ñ5Ñ6Ñ7Ñ8Ñ9Ð30Ñ1Ñ2Ñ3Ñ4Ñ5Ñ6Ñ7Ñ8Ñ9Ð40Ñ1Ñ2Ñ3Ñ4Ñ5Ñ6Ñ7Ñ8Ñ9Ð50Ñ1Ñ2Ñ3Ñ4Ñ5Ñ6Ñ7Ñ8Ñ9Ð60Ñ1Ñ2Ñ3Ñ4Ñ5Ñ6Ñ7Ñ8Ñ9
Ð70Ñ1Ï400-VASÑ1-VASÑ2-VASÑ3-VASÑ4-VASÑ5-VASÑ6-VASÑ7-VASÑ8-VASÑ9-VASÐ10-VASÑ1-VASÑ2-VASÑ3-VASÑ4-VAS
Ñ5-VASÑ6-VASÑ7-VASÑ8-VASÏ501Ñ2Ñ3Ñ4Ñ5Ñ6Ñ8Ñ9Ð10Ñ1Ñ2Ñ3Ñ5Ñ6Ð20Ñ1Ñ3Ñ4Ñ5Ñ6Ñ7Ñ8Ñ9Ð30Ñ1Ñ2Ñ4Ñ5Ñ6Ñ7Ñ8Ñ9Ð40Ñ1
Ñ2Ñ5Ñ7Ñ8Ñ9Ð50Ñ1Ñ2Ñ3Ñ4Ñ5Ñ6Ñ7Ñ9Ð63Ñ4Ñ5Ñ6Ñ8Ñ9Ð70Ñ1Ñ2Ñ3Ñ4Ñ5Ñ6Ñ7Ñ8Ñ9Ð80Ñ1Ñ2Ñ3Ñ4Ñ5Ñ6Ñ7Ñ8Ñ9Ð91Ñ2Ñ4Ñ5Ñ6Ñ8
Ï600Ñ1Ñ2Ñ3Ñ4Ñ6Ñ8Ñ9Ð10Ñ1Ñ2Ñ3Ñ4Ñ5Ñ6Ñ7Ñ8Ñ9Ð20Ñ1Ñ2Ñ3Ñ4Ñ6Ñ7Ñ8Ñ9Ð34Ñ7Ñ8Ð40Ñ2Ñ3Ñ4Ñ5Ñ6Ñ8Ñ9Ð51Ñ2Ñ3Ñ4Ñ5Ñ6Ñ7
Ñ8Ñ9Ð60Ñ1Ñ2Ñ3Ñ4=10740Ï701 AÑ2 BÑ3 DÑ4 EÑ5 FÑ6 HÑ7 JÑ8 KÑ9 LÒ-2 L2Ó3 L3Ó4 L4Ó6 L6Ð10 WÑ1 XÑ2 Y
Ñ3 OMEGAÑ4 ABBÑ5 BBÑ7 DDÐ26 EYYYÐ32 JE=10760Ï800Ñ1Ñ2Ñ3Ñ4Ñ5Ñ6Ñ7=10780ÀMODIFIERbd c AA
ÑUPERSCRIPT TRIANGULAR COLONÜHALF TRIANGULAR COLONÑMALL AEÖc BÖBaHOOK=10787ÖDZ DIGRAPH
àaRETROFLEX HOOKæCURL×EZH DIGRAPH×aTAILÝHOOKáfTAILÖREVERSED EÖCLOSED REVERSED OPEN EÖFENG DIGRAPH
ÖRAMS HORNÖc GÖGaHOOKÖc GaHOOKÖHawÖc HÖHENGaHOOKÖDOTLESS JawfHOOKÖLS DIGRAPH×Z DIGRAPH×aBELT
Öc LaBELTÖLaRETROFLEX HOOKfBELT×EZHÚaRETROFLEX HOOKÖTURNED YÞaBELTÖOawÖc OE×LOSED OMEGAÖQ
ÖTURNED RaLONG LEGìfRETROFLEX HOOKÖRaTAILÝFISHHOOKÖc RÖTC DIGRAPHaCURL×S DIGRAPHàaRETROFLEX HOOK
×ESH DIGRAPH×aRETROFLEX HOOKÖVam HOOK=107b2Öc YÐGLOTTAL STOPawÐREVERSED GLOTTAL STOPaw
ÐBILABIAL CLICKÐDENTAL CLICKÐLATERAL CLICKÐALVEOLAR CLICKÐRETROFLEX CLICKaRETROFLEX HOOKÐd SaCURL
=10800ÀCYPRIOT SYLLABLE AÑEÑIÑOÑUÑJA=10808ÒO=1080aÑKAÒEÒIÒOÒUÑLAÒEÒIÒOÒUÑMAÒEÒIÒOÒUÑNAÒEÒIÒOÒUÑPA
ÒEÒIÒOÒUÑRAÒEÒIÒOÒUÑSAÒEÒIÒOÒUÑTAÒEÒIÒOÒUÑWAÒEÒIÒO=10837ÑXAÒE=1083cÑZA=1083fÒO
ÀIMPERIAL ARAMAICbALEPHØBETHØGIMELØDALETHØHEØWAWØZAYINØHETHØTETHØYODHØKAPHØLAMEDHØMEMØNUNØSAMEKH
ØAYINØPEØSADHEØQOPHØRESHØSHINØTAW=10857ÑSECTION kÑNUMBER ONEØTWOÙHREEÙENÙWENTYØONE HUNDRED
ÜTHOUSANDØTEN THOUSANDÀPALMYRENEbALEPHÑBETHÑGIMELÑDALETHÑHEÑWAWÑZAYINÑHETHÑTETHÑYODHÑKAPHÑLAMEDH
ÑMEMÑFINAL NUNÑNUNÑSAMEKHÑAYINÑPEÑSADHEÑQOPHÑRESHÑSHINÑTAWÌFT-POINTING FLEURONÊm-POINTING FLEURON
ÊNUMBER ONEÑTWOÒHREEÑFOURÒIVEÑTENÒWENTYÀNABATAEANbFINAL ALEPHÑALEPHÑFINAL BETHÑBETHÑGIMELÑDALETH
ÑFINAL HEÑHEÑWAWÑZAYINÑHETHÑTETHÑFINAL YODHÑYODHÑFINAL KAPHÑKAPHÑFINAL LAMEDHÑLAMEDHÑFINAL MEMÑMEM
ÑFINAL NUNÑNUNÑSAMEKHÑAYINÑPEÑSADHEÑQOPHÑRESHÑFINAL SHINÑSHINÑTAW=108a7ÊNUMBER ONEÑTWOÒHREEÑFOUR
ÊCRUCIFORM NUMBER FOURÊNUMBER FIVEÑTENÒWENTYÑONE HUNDRED=108e0ÀHATRANbALEPHÎBETHÎGIMELÎDALETH-RESH
ÎHEÎWAWÎZAYNÎHETHÎTETHÎYODHÎKAPHÎLAMEDHÎMEMÎNUNÎSAMEKHÎAYNÎPEÎSADHEÎQOPH=108f4ÎSHINÎTAW
=108fbÇNUMBER ONEÎFIVEÎTENÏWENTYÎONE HUNDREDÀPHOENICIANbALFÒBETÒGAMLÒDELTÒHEÒWAUÒZAIÒHETÒTETÒYOD
ÒKAFÒLAMDÒMEMÒNUNÒSEMKÒAINÒPEÒSADEÒQOFÒROSHÒSHINÒTAUËNUMBER ONEÒTENÓWENTYÒONE HUNDREDÒTWOÓHREE
=1091fËWORD SEPARATORÀLYDIANbAÎBÎGÎDÎEÎVÎIÎYÎKÎLÎMÎNÎOÎRÎSSÎTÎUÎFÎQÎSÎTTÎANÎENÎLYÎNNÎC
=1093fÇTRIANGULAR MARK=10980ÀMEROITIC HIEROGLYPHICbAÝEÝIÝOÝYAÝWAÝBAß-2ÝPAÝMAÝNAß-2ÞEß-2ÝRAß-2ÝLA
ÝKHAÝHHAÝSAß-2ÞEÝKAÝQAÝTAß-2ÞEß-2ÞOÝDAÖz VIDJá-2ÉCURSIVEbAØEØIØOØYAØWAØBAØPAØMAØNAÙEØRAØLAØKHAØHHA
ØSAØARCHAIC SAØSEØKAØQAØTAÙEÙOØDA=109bcÑFRACTION ELEVEN TWELFTHSÚONE HALFÑLOGOGRAM RMTÚIMN
ÑNUMBER ONEØTWOÙHREEØFOURÙIVEØSIXÙEVENØEIGHTØNINEØTENÙWENTYÙHIRTYØFORTYÙIFTYØSIXTYÙEVENTY
=109d2ØONE HUNDREDØTWO HUNDREDÙHREE HUNDREDØFOUR HUNDREDÙIVE HUNDREDØSIX HUNDREDÙEVEN HUNDRED
ØEIGHT HUNDREDØNINE HUNDREDØONE THOUSANDØTWO THOUSANDÙHREE THOUSANDØFOUR THOUSANDÙIVE THOUSAND
ØSIX THOUSANDÙEVEN THOUSANDØEIGHT THOUSANDØNINE THOUSANDØTEN THOUSANDÙWENTY THOUSAND
ÙHIRTY THOUSANDØFORTY THOUSANDÙIFTY THOUSANDØSIXTY THOUSANDÙEVENTY THOUSANDØEIGHTY THOUSAND
ØNINETY THOUSANDØONE HUNDRED THOUSANDØTWO HUNDRED THOUSANDÙHREE HUNDRED THOUSAND
ØFOUR HUNDRED THOUSANDÙIVE HUNDRED THOUSANDØSIX HUNDRED THOUSANDÙEVEN HUNDRED THOUSAND
ØEIGHT HUNDRED THOUSANDØNINE HUNDRED THOUSANDÑFRACTION ONE TWELFTHÚTWO TWELFTHSÛHREE TWELFTHS
ÚFOUR TWELFTHSÛIVE TWELFTHSÚSIX TWELFTHSÛEVEN TWELFTHSÚEIGHT TWELFTHSÚNINE TWELFTHSÚTEN TWELFTHS
ÀKHAROSHTHIbAËyk IÖUÖVOCALIC R=10a05ÖEÖO=10a0cÑLENGTH MARKËk nRINGoÐANUSVARAÐVISARGAËvKAÓHAÒGAÓHA
=10a15ÒCAÓHAÒJA=10a19ÒNYAÒTTAÔHAÒDDAÔHAÒNNAÒTAÓHAÒDAÓHAÒNAÒPAÓHAÒBAÓHAÒMAÒYAÒRAÒLAÒVAÒSHAÓSAÓAÒZA
ÒHAÒKKAÒTTTHAÕAÒVHA=10a38Ëk BARlÐCAUDAÐDOTo=10a3fËVIRAMAËDIGIT ONEÑTWOÒHREEÑFOURËNUMBER TENÓWENTY
ÒONE HUNDREDÖTHOUSANDËFRACTION ONE HALF=10a50ËPUNCTUATION DOT×d CIRCLE×CIRCLEØRESCENT BAR×MANGALAM
×LOTUS×DANDAØOUBLE DANDA×LINES=10a60ÀOLD SOUTH ARABIANbHEÙLAMEDHÙHETHÙMEMÙQOPHÙWAWÙSHINÙRESHÙBETH
ÙTAWÙSATÙKAPHÙNUNÙKHETHÙSADHEÛMEKHÙFEÙALEFÚYNÙDHADHEÙGIMELÙDALETHÙGHAYNÙTETHÙZAYNÙDHALETHÙYODH
ÙTHAWÛETHÒNUMBER ONEÙFIFTYÕERIC INDICATORÄNORTH ARABIANbHEHÙLAMÙHAHÙMEEMÙQAFÙWAWÙES-2ÙREHÙBEHÙTEH
ÙES-1ÙKAFÙNOONÙKHAHÙSADÙES-3ÙFEHÙALEFÚINÙDADÙGEEMÙDALÙGHAINÙTAHÙZAINÙTHALÙYEHÙTHEHÙZAHÒNUMBER ONE
ÙTENÚWENTY=10ac0ÀMANICHAEANbALEPHÒBETHÓHETHÒGIMELÓHIMELÒDALETHÒHEÒWAWËk UDËvZAYINÓHAYINÒJAYIN
ÓHAYINÒHETHÒTETHÒYODHÒKAPHÒXAPHÒKHAPHÒLAMEDHÒDHAMEDHÒTHAMEDHÒMEMÒNUNÒSAMEKHÒAYINÓAYINÒPEÒFEÒSADHE
ÒQOPHÒXOPHÒQHOPHÒRESHÒSHINÓSHINÒTAWËABBREVIATION MARKlÝBELOW=10aebËNUMBER ONEÒFIVEÒTENÓWENTY
ÒONE HUNDREDËPUNCTUATION STAR×FLEURON×nDOT WITHIN DOTÙT WITHIN DOTÚ×TWO DOTS×LINE FILLER
=10b00ÀAVESTANbAÐAÐOÐAOÐNÐANÐEÑEÏEÐEÏOÐOÏIÐIÏUÐUÏKEÏXEÐYEÐVEÏGEÐGEÐHEÏCEÏJEÏTEÐHEÏDEÐHEÏTTEÏPEÏFE
ÏBEÐHEÏNGEÑYEÑVEÐEÐYEÐNEÏMEÏHMEÏYYEÐEÏVEÏREÏLEÏSEÏZEÏSHEÏZHEÏSHYEÐSHEÏHE=10b39ÈABBREVIATION MARK
ÀTINY TWO DOTS OVER ONE DOT PUNCTUATIONÀd TWO DOTS OVER ONE DOT PUNCTUATION
ÀLARGE TWO DOTS OVER ONE DOT PUNCTUATIONÆONE DOT OVER TWO DOTS PUNCTUATION
ÆTWO RINGS OVER ONE RING PUNCTUATIONÆONE RING OVER TWO RINGS PUNCTUATION
ÀINSCRIPTIONAL PARTHIANbALEPHÞBETHÞGIMELÞDALETHÞHEÞWAWÞZAYINÞHETHÞTETHÞYODHÞKAPHÞLAMEDHÞMEMÞNUN
ÞSAMEKHÞAYINÞPEÞSADHEÞQOPHÞRESHÞSHINÞTAW=10b58×NUMBER ONEÞTWOßHREEÞFOURÞTENßWENTYÞONE HUNDRED
âTHOUSANDÐHLAVIbALEPHÝBETHÝGIMELÝDALETHÝHEÝWAW-AYIN-RESHÝZAYINÝHETHÝTETHÝYODHÝKAPHÝLAMEDHÝMEM-QOPH
ÝNUNÝSAMEKHÝPEÝSADHEÞHINÝTAW=10b78ÖNUMBER ONEÝTWOÞHREEÝFOURÝTENÞWENTYÝONE HUNDREDáTHOUSAND
ÀPSALTER PAHLAVIbALEPH×BETH×GIMEL×DALETH×HE×WAW-AYIN-RESH×ZAYIN×HETH×YODH×KAPH×LAMEDH×MEM-QOPH×NUN
×SAMEKH×PE×SADHEØHIN×TAW=10b99ÐSECTION MARKÐTURNED SECTION MARKÐFOUR DOTSaCROSSßDOT
=10ba9ÐNUMBER ONE×TWOØHREE×FOUR×TENØWENTY×ONE HUNDRED=10c00ÀOLD TURKICbORKHON AÒYENISEI AÛE
ÒORKHON IÒYENISEI IÚEÒORKHON OÚEÒYENISEI OEÒORKHON ABÒYENISEI ABÒORKHON AEBÒYENISEI AEBÒORKHON AG
ÒYENISEI AGÒORKHON AEGÒYENISEI AEGÒORKHON ADÒYENISEI ADÒORKHON AEDÙEZÒYENISEI EZÒORKHON AY
ÒYENISEI AYÒORKHON AEYÒYENISEI AEYÒORKHON AEKÒYENISEI AEKÒORKHON OEKÒYENISEI OEKÒORKHON AL
ÒYENISEI ALÒORKHON AELÙELTÚMÙANÚENÒYENISEI AENÒORKHON ENTÒYENISEI ENTÒORKHON ENCÒYENISEI ENC
ÒORKHON ENYÒYENISEI ENYÚANGÒORKHON ENGÒYENISEI AENGÒORKHON EPÙOPÙICÙECÒYENISEI ECÒORKHON AQ
ÒYENISEI AQÒORKHON IQÒYENISEI IQÒORKHON OQÒYENISEI OQÒORKHON ARÒYENISEI ARÒORKHON AERÚSÚESÚSH
ÒYENISEI ASHÒORKHON ESHÒYENISEI ESHÒORKHON ATÒYENISEI ATÒORKHON AETÒYENISEI AETÒORKHON OTÙBASH
=10c80ÄHUNGARIAN cbAÞAÝEBÝAMBÝECÞNCÞCSÞDÝANDÝEÝCLOSE EÝEEÞFÞGßYÞHÝIÞIÝEJÞKÝAKÝUNKÝELßYÞMÞNßYÝOÞO
ÝNIKOLSBURG OEÝRUDIMENTA OEÝOEEÝEPÞMPÞRÝSHORT ERÝESßZÞTÞNTÞTYÞCHÝUÞUÝNIKOLSBURG UEÝRUDIMENTA UEÝEV
ÞZßSÞNT-SHAPED kÝUS=10cc0ÎdbAÜAÛEBÛAMBÛECÜNCÜCSÜDÛANDÛEÛCLOSE EÛEEÜFÜGÝYÜHÛIÜIÛEJÜKÛAKÛUNKÛELÝYÜM
ÜNÝYÛOÜOÛNIKOLSBURG OEÛRUDIMENTA OEÛOEEÛEPÜMPÜRÛSHORT ERÛESÝZÜTÜNTÜTYÜCHÛUÜUÛNIKOLSBURG UE
ÛRUDIMENTA UEÛEVÜZÝSÜNT-SHAPED kÛUS=10cfaÎNUMBER ONEÕFIVEÕTENÕFIFTYÕONE HUNDREDÙTHOUSAND
ÀHANIFI ROHINGYAbA×BA×PA×TAØTA×JA×CA×HA×KHA×FA×DAØDA×RAØRA×ZA×SAØHA×KA×GA×LA×MA×NA×WA×KINNA WA×YA
×KINNA YA×NGAØYA×VAÐyAÖIÖUÖEÖOÐMARK SAKINÕNA KHONNAÐk HARBAHAYÕTAHALA×NA×SSI=10d30ÐDIGIT ZEROÖONE
ÖTWO×HREEÖFOUR×IVEÖSIX×EVENÖEIGHTÖNINE=10e60ÀRUMI DIGIT ONEËTWOÌHREEËFOURÌIVEËSIXÌEVENËEIGHTËNINE
ÅNUMBER TENÍWENTYÍHIRTYÌFORTYÍIFTYÌSIXTYÍEVENTYÌEIGHTYÌNINETYÌONE HUNDREDÌTWO HUNDREDÍHREE HUNDRED
ÌFOUR HUNDREDÍIVE HUNDREDÌSIX HUNDREDÍEVEN HUNDREDÌEIGHT HUNDREDÌNINE HUNDREDÅFRACTION ONE HALF
ÒQUARTERÒTHIRDÎTWO THIRDS=10e80ÀYEZIDIbELIFÎBEÎPEÏHEÎTHEÎSEÎCIMÏHIMÐHIMÎHHAÎXAÎDALÎZALÎRAÏHAÎZAÎJA
ÎSINÏHINÏADÎDADÎTAÎZEÎEYNÎXHEYNÎFAÎVAÐ ALTERNATE FORMÎQAFÎKAFÏHAFÎGAFÎLAMÎMIMÎNUNÎUMÎWAWÎOWÎEWÎHAY
ÎYOTÎET=10eabÇCOMBINING HAMZA MARKÑMADDA MARKÇHYPHENATION MARK=10eb0ÇvLAMaDOTlÎYOTaCIRCUMFLEXl
=10f00ÀOLD SOGDIANbALEPHÓFINAL ALEPHÓBETHÓFINAL BETHÓGIMELÓHEÓFINAL HEÓWAWÓZAYINÓHETHÓYODHÓKAPH
ÓLAMEDHÓMEMÓNUNÓFINAL NUNÜat TAILÓSAMEKHÓAYINÔLTERNATE AYINÓPEÓSADHEÓFINAL SADHEÞat TAIL
ÓRESH-AYIN-DALETHÓSHINÓTAWÓFINAL TAWÜat TAILÌNUMBER ONEÓTWOÔHREEÓFOURÔIVEÓTENÔWENTYÔHIRTY
ÓONE HUNDREDÌFRACTION ONE HALFÌLIGATURE AYIN-DALETH=10f30ÀSOGDIANbALEPHÏBETHÏGIMELÏHEÏWAWÏZAYIN
ÏHETHÏYODHÏKAPHÏLAMEDHÏMEMÏNUNÏSAMEKHÏAYINÏPEÏSADHEÏRESH-AYINÏSHINÏTAWÏFETHÏLESHÈINDEPENDENT SHIN
ÈCOMBINING DOToÒTWO DOTSoÒDOTlÒTWO DOTSlÒCURVElØBELOWÒHOOKl×BELOWÒLONG HOOKoÒRESHoÒwoÈNUMBER ONE
ÏTENÐWENTYÏONE HUNDREDÈPUNCTUATION TWO t BARSåaDOTSÔCIRCLEaDOTÔTWO CIRCLESaDOTSÔHALF CIRCLEaDOT
=10f70ÀOLD UYGHURbALEPHÒBETHÒGIMEL-HETHÒWAWÒZAYINÒFINAL HETHÒYODHÒKAPHÒLAMEDHÒMEMÒNUNÒSAMEKHÒPE
ÒSADHEÒRESHÒSHINÒTAWÒLESHËCOMBINING DOTlÙBELOWÕTWO DOTSlÞBELOWËPUNCTUATION BAR×TWO BARSÛDOTS
×FOUR DOTS=10fb0ÀCHORASMIANbALEPHÒd ALEPHÒBETHÒGIMELÒDALETHÒHEÒWAWÒCURLED WAWÒZAYINÒHETHÒYODHÒKAPH
ÒLAMEDHÒMEMÒNUNÒSAMEKHÒAYINÒPEÒRESHÒSHINÒTAWËNUMBER ONEÒTWOÓHREEÒFOURÒTENÓWENTYÒONE HUNDRED
=10fe0ÀELYMAICbALEPHÏBETHÏGIMELÏDALETHÏHEÏWAWÏZAYINÏHETHÏTETHÏYODHÏKAPHÏLAMEDHÏMEMÏNUNÏSAMEKHÏAYIN
ÏPEÏSADHEÏQOPHÏRESHÏSHINÏTAWÉIGATURE ZAYIN-YODH=11000ÀBRAHMI k CANDRABINDUÌANUSVARAÌVISARGA
ÌJIHVAMULIYAÌUPADHMANIYAÇvAÏAÎIÏIÎUÏUÎVOCALIC R×RÖL×LÎEÎAIÎOÎAUÎKAÏHAÎGAÏHAÎNGAÎCAÏHAÎJAÏHAÎNYA
ÎTTAÐHAÎDDAÐHAÎNNAÎTAÏHAÎDAÏHAÎNAÎPAÏHAÎBAÏHAÎMAÎYAÎRAÎLAÎVAÎSHAÏSAÏAÎHAÎLLAÎOLD TAMIL LLLAØRRA
ØNNNAÇyk AAÒBHATTIPROLU AAÒIÓIÒUÓUÒVOCALIC RÛRÚLÛLÒEÒAIÒOÒAUÈIRAMAÇDANDAÈOUBLE DANDA
ÇPUNCTUATION DOTÕUBLE DOTÓLINEÓCRESCENT BARÓLOTUS=11052ÇNUMBER ONEÎTWOÏHREEÎFOURÏIVEÎSIXÏEVEN
ÎEIGHTÎNINEÎTENÏWENTYÏHIRTYÎFORTYÏIFTYÎSIXTYÏEVENTYÎEIGHTYÎNINETYÎONE HUNDREDÒTHOUSANDÇDIGIT ZERO
ÍONEÍTWOÎHREEÍFOURÎIVEÍSIXÎEVENÍEIGHTÍNINEÇk OLD TAMIL VIRAMAÇvOLD TAMIL SHORT EÞO
Çyk OLD TAMIL SHORT EâOÇvOLD TAMIL LLA=1107fÇNUMBER JOINERÀKAITHI k CANDRABINDUÌANUSVARAÌVISARGA
ÇvAÏAÎIÏIÎUÏUÎEÎAIÎOÎAUÎKAÏHAÎGAÏHAÎNGAÎCAÏHAÎJAÏHAÎNYAÎTTAÐHAÎDDAÐDHAÐHAÎRHAÎNNAÎTAÏHAÎDAÏHAÎNA
ÎPAÏHAÎBAÏHAÎMAÎYAÎRAÎLAÎVAÎSHAÏSAÏAÎHAÇyk AAÒIÓIÒUÓUÒEÒAIÒOÒAUÇk VIRAMAÌNUKTAÇABBREVIATION k
ÇENUMERATION kÇNUMBER kÇSECTION MARKÇnSECTION MARKÈANDAÈOUBLE DANDAÇyk VOCALIC R=110cdÇNUMBER kl
=110d0ÀSORA SOMPENGbSAHÔTAHÔBAHÔCAHÔDAHÔGAHÔMAHÔNGAHÔLAHÔNAHÔVAHÔPAHÔYAHÔRAHÔHAHÔKAHÔJAHÔNYAHÔAH
ÔEEHÔIHÔUHÔOHÔEHÔMAE=110f0ÍDIGIT ZEROÓONEÓTWOÔHREEÓFOURÔIVEÓSIXÔEVENÓEIGHTÓNINE
=11100ÀCHAKMA k CANDRABINDUÌANUSVARAÌVISARGAÇvAAÎIÎUÎEÎKAAÏHAAÎGAAÏHAAÎNGAAÎCAAÏHAAÎJAAÏHAAÎNYAA
ÎTTAAÐHAAÎDDAAÐHAAÎNNAAÎTAAÏHAAÎDAAÏHAAÎNAAÎPAAÏHAAÎBAAÏHAAÎMAAÎYYAAÏAAÎRAAÎLAAÎWAAÎSAAÎHAAÇyk AÒI
ÓIÒUÓUÒEÒAIÒOÒAUÒOIÇO MARKÇAU MARKÇVIRAMAÇMAAYYAA=11136ÇDIGIT ZEROÍONEÍTWOÎHREEÍFOURÎIVEÍSIXÎEVEN
ÍEIGHTÍNINEÇSECTION MARKÇDANDAÈOUBLE DANDAÇQUESTION MARKÇvLHAAÇyk AAÒEIÇvVAA=11150ÀMAHAJANIbAÐIÐU
ÐEÐOÐKAÑHAÐGAÑHAÐCAÑHAÐJAÑHAÐNYAÐTTAÒHAÐDDAÒHAÐNNAÐTAÑHAÐDAÑHAÐNAÐPAÑHAÐBAÑHAÐMAÐRAÐLAÐVAÐSAÐHA
ÐRRAÉk NUKTAÉABBREVIATION kÉSECTION MARKÉLIGATURE SHRI=11180ÀSHARADA k CANDRABINDUÍANUSVARA
ÍVISARGAÈvAÐAÏIÐIÏUÐUÏVOCALIC RØR×LØLÏEÏAIÏOÏAUÏKAÐHAÏGAÐHAÏNGAÏCAÐHAÏJAÐHAÏNYAÏTTAÑHAÏDDAÑHAÏNNA
ÏTAÐHAÏDAÐHAÏNAÏPAÐHAÏBAÐHAÏMAÏYAÏRAÏLAÐLAÏVAÏSHAÐSAÐAÏHAÈyk AAÓIÔIÓUÔUÓVOCALIC RÜRÛLÜLÓEÓAIÓOÓAU
Èk VIRAMAÍAVAGRAHAÍJIHVAMULIYAÍUPADHMANIYAÈOMÈDANDAÉOUBLE DANDAÈABBREVIATION kÈSEPARATOR
ÉANDHI MARKÉIGN NUKTAÈyMODIFIER MARKÈEXTRA SHORT yMARKÈSUTRA MARKÈyk PRISHTHAMATRA E
Èk INVERTED CANDRABINDUÈDIGIT ZEROÎONEÎTWOÏHREEÎFOURÏIVEÎSIXÏEVENÎEIGHTÎNINEÈEKAMÈk SIDDHAMÈHEADw
ÈCONTINUATION kÈSECTION MARK-1Õ2=111e1ÁINHALA ARCHAIC DIGIT ONEÖTWO×HREEÖFOUR×IVEÖSIX×EVENÖEIGHT
ÖNINEÐNUMBER TENØWENTYØHIRTY×FORTYØIFTY×SIXTYØEVENTY×EIGHTY×NINETY×ONE HUNDREDÛTHOUSAND
=11200ÀKHOJKIbAÏAÎIÎUÎEÎAIÎOÎAUÎKAÏHAÎGAÏGAÏHAÎNGAÎCAÏHAÎJAÏJA=11213ÎNYAÎTTAÐHAÎDDAÐHAÎNNAÎTAÏHA
ÎDAÏDDAÏHAÎNAÎPAÏHAÎBAÏBAÏHAÎMAÎYAÎRAÎLAÎVAÎSAÎHAÎLLAÇyk AAÒIÓIÒUÒEÒAIÒOÒAUÇk ANUSVARAÌVIRAMA
ÌNUKTAÌSHADDAÇDANDAÈOUBLE DANDAÇWORD SEPARATORÇSECTION MARKÇnSECTION MARKÇABBREVIATION kÇk SUKUN
=11280ÀMULTANIbAÏIÏUÏEÏKAÐHAÏGA=11288ÐHA=1128aÏCAÐHAÏJAÐJA=1128fÏNYAÏTTAÑHAÏDDAÑDAÑHAÏNNAÏTAÐHAÏDA
ÐHAÏNAÏPAÐHAÏBA=1129fÐHAÏMAÏYAÏRAÏLAÏVAÏSAÏHAÏRRAÐHAÈSECTION MARK=112b0ÀKHUDAWADIbAÒAÑIÒIÑUÒUÑEÑAI
ÑOÑAUÑKAÒHAÑGAÒGAÒHAÑNGAÑCAÒHAÑJAÒJAÒHAÑNYAÑTTAÓHAÑDDAÓDAÑRRAÑDDHAÑNNAÑTAÒHAÑDAÒHAÑNAÑPAÒHAÑBAÒBA
ÒHAÑMAÑYAÑRAÑLAÑVAÑSHAÒAÑHAÊk ANUSVARAÊyk AAÕIÖIÕUÖUÕEÕAIÕOÕAUÊk NUKTAÏVIRAMA=112f0ÊDIGIT ZEROÐONE
ÐTWOÑHREEÐFOURÑIVEÐSIXÑEVENÐEIGHTÐNINE=11300ÀGRANTHA k COMBINING ANUSVARAlÎANDRABINDUÍANUSVARA
ÍVISARGA=11305ÈvAÐAÏIÐIÏUÐUÏVOCALIC R×L=1130fÏEEÏAI=11313ÏOOÏAUÏKAÐHAÏGAÐHAÏNGAÏCAÐHAÏJAÐHAÏNYA
ÏTTAÑHAÏDDAÑHAÏNNAÏTAÐHAÏDAÐHAÏNA=1132aÏPAÐHAÏBAÐHAÏMAÏYAÏRA=11332ÏLAÐLA=11335ÏVAÏSHAÐSAÐAÏHA
=1133bÀCOMBINING BINDUoÀGRANTHA k NUKTAÍAVAGRAHAÈyk AAÓIÔIÓUÔUÓVOCALIC RÜR=11347ÓEEÓAI=1134bÓOOÓAU
Èk VIRAMA=11350ÈOM=11357ÈAU LENGTH MARK=1135dÈk PLUTAÈvVEDIC ANUSVARAÕnANUSVARAÐOCALIC RR×LL
Èyk VOCALIC LÜL=11366ÀCOMBINING GRANTHA DIGIT ZEROØONEØTWOÙHREEØFOURÙIVEØSIX=11370ÒvAÙKAÙNAÙVIÙPA
=11400ÀNEWAbAÍAÌIÍIÌUÍUÌVOCALIC RÕRÔLÕLÌEÌAIÌOÌAUÌKAÍHAÌGAÍHAÌNGAÎHAÌCAÍHAÌJAÍHAÌNYAÎHAÌTTAÎHAÌDDA
ÎHAÌNNAÌTAÍHAÌDAÍHAÌNAÍHAÌPAÍHAÌBAÍHAÌMAÍHAÌYAÌRAÍHAÌLAÍHAÌWAÌSHAÍSAÍAÌHAÅyk AAÐIÑIÐUÑUÐVOCALIC R
ÙRØLÙLÐEÐAIÐOÐAUÅk VIRAMAÊCANDRABINDUÊANUSVARAÊVISARGAÊNUKTAÊAVAGRAHAÊFINAL ANUSVARAÅOMÅSIDDHI
ÅDANDAÆOUBLE DANDAÅCOMMAÅGAP FILLERÅABBREVIATION kÅDIGIT ZEROËONEËTWOÌHREEËFOURÌIVEËSIXÌEVENËEIGHT
ËNINEÆOUBLE COMMAÅPLACEHOLDER MARK=1145dÅINSERTION kÅSANDHI MARKÅvVEDIC ANUSVARAÅk JIHVAMULIYA
ÊUPADHMANIYA=11480ÀTIRHUTA ANJIÈvAÐAÏIÐIÏUÐUÏVOCALIC RØR×LØLÏEÏAIÏOÏAUÏKAÐHAÏGAÐHAÏNGAÏCAÐHAÏJAÐHA
ÏNYAÏTTAÑHAÏDDAÑHAÏNNAÏTAÐHAÏDAÐHAÏNAÏPAÐHAÏBAÐHAÏMAÏYAÏRAÏLAÏVAÏSHAÐSAÐAÏHAÈyk AAÓIÔIÓUÔU
ÓVOCALIC RÜRÛLÜLÓEÓSHORT EÓAIÓOÓSHORT OÓAUÈk CANDRABINDUÍANUSVARAÍVISARGAÏRAMAÍNUKTAÍAVAGRAHA
ÈGVANGÈABBREVIATION kÈOM=114d0ÈDIGIT ZEROÎONEÎTWOÏHREEÎFOURÏIVEÎSIXÏEVENÎEIGHTÎNINE
=11580ÀSIDDHAMbAÐAÏIÐIÏUÐUÏVOCALIC RØR×LØLÏEÏAIÏOÏAUÏKAÐHAÏGAÐHAÏNGAÏCAÐHAÏJAÐHAÏNYAÏTTAÑHAÏDDAÑHA
ÏNNAÏTAÐHAÏDAÐHAÏNAÏPAÐHAÏBAÐHAÏMAÏYAÏRAÏLAÏVAÏSHAÐSAÐAÏHAÈyk AAÓIÔIÓUÔUÓVOCALIC RÜR=115b8ÓEÓAIÓO
ÓAUÈk CANDRABINDUÍANUSVARAÍVISARGAÏRAMAÍNUKTAÍSIDDHAMÈDANDAÉOUBLE DANDAÈSEPARATOR DOTÒBAR
ÈREPETITION MARK-1Ø2Ø3ÈEND OF TEXT MARKÈSECTION MARKaTRIDENTfU-SHAPED ORNAMENTSæDOTTED CRESCENTS
ÚRAYSfDOTTED CRESCENTSênCRESCENTSêTRIPLE CRESCENTSÕnRINGàaRAYSÕWITH nCRESCENTSÚTRIPLE CRESCENTS
ÚQUADRUPLE CRESCENTSÚSEPTUPLE CRESCENTSÚCIRCLESfRAYSæTWO ENCLOSURESæFOUR ENCLOSURES
ÈvTHREE-CIRCLE ALTERNATE IÐWO-CIRCLE ALTERNATE IåIÏALTERNATE UÈyk ALTERNATE UÞU=11600ÀMODIbAÍAÌIÍI
ÌUÍUÌVOCALIC RÕRÔLÕLÌEÌAIÌOÌAUÌKAÍHAÌGAÍHAÌNGAÌCAÍHAÌJAÍHAÌNYAÌTTAÎHAÌDDAÎHAÌNNAÌTAÍHAÌDAÍHAÌNAÌPA
ÍHAÌBAÍHAÌMAÌYAÌRAÌLAÌVAÌSHAÍSAÍAÌHAÌLLAÅyk AAÐIÑIÐUÑUÐVOCALIC RÙRØLÙLÐEÐAIÐOÐAUÅk ANUSVARA
ÊVISARGAÌRAMAÊARDHACANDRAÅDANDAÆOUBLE DANDAÅABBREVIATION kÅk HUVA=11650ÅDIGIT ZEROËONEËTWOÌHREE
ËFOURÌIVEËSIXÌEVENËEIGHTËNINE=11660ÂNGOLIAN BIRGAaORNAMENTÊROTATED BIRGAÊnBIRGAaORNAMENT
ÊTRIPLE BIRGAaORNAMENTÊBIRGAanORNAMENTÊROTATED BIRGAaORNAMENTÝnORNAMENTÊINVERTED BIRGAØanORNAMENT
ÊSWIRL BIRGAÕaORNAMENTÛnORNAMENTÊTURNED SWIRL BIRGAanORNAMENT=11680ÀTAKRIbAÎAÍIÎIÍUÎUÍEÍAIÍOÍAUÍKA
ÎHAÍGAÎHAÍNGAÍCAÎHAÍJAÎHAÍNYAÍTTAÏHAÍDDAÏHAÍNNAÍTAÎHAÍDAÎHAÍNAÍPAÎHAÍBAÎHAÍMAÍYAÍRAÍLAÍVAÍSHAÎAÍHA
ÍRRAÆk ANUSVARAËVISARGAÆyk AAÑIÒIÑUÒUÑEÑAIÑOÑAUÆk VIRAMAËNUKTAÆvARCHAIC KHAÆABBREVIATION k
=116c0ÆDIGIT ZEROÌONEÌTWOÍHREEÌFOURÍIVEÌSIXÍEVENÌEIGHTÌNINE=11700ÀAHOMbKAÍHAÌNGAÍAÌTAÌALTERNATE TA
ÌPAÍHAÌBAÌMAÌJAÌCHAÌTHAÌRAÌLAÌSAÌNYAÌHAÌAÌDAÍHAÌGAÌALTERNATE GAÌGHAÌBHAÌJHAÌALTERNATE BA
=1171dÅCONSONANT k MEDIAL LAÛRAÛLIGATING RAÅyk AÑAÐIÑIÐUÑUÐEÐAWÐOÐAIÑMÅk KILLER=11730ÅDIGIT ZERO
ËONEËTWOÌHREEËFOURÌIVEËSIXÌEVENËEIGHTËNINEÅNUMBER TENÍWENTYÅk d SECTIONËECTIONÊRULAIÆYMBOL VIÅvCA
ÌTTAÎHAÌDDAÎHAÌNNAÌLLA=11800ÀDOGRAbAÎAÍIÎIÍUÎUÍEÍAIÍOÍAUÍKAÎHAÍGAÎHAÍNGAÍCAÎHAÍJAÎHAÍNYAÍTTAÏHA
ÍDDAÏHAÍNNAÍTAÎHAÍDAÎHAÍNAÍPAÎHAÍBAÎHAÍMAÍYAÍRAÍLAÍVAÍSHAÎSAÎAÍHAÍRRAÆyk AAÑIÒIÑUÒUÑVOCALIC RÚRÑE
ÑAIÑOÑAUÆk ANUSVARAËVISARGAÍRAMAËNUKTAÆABBREVIATION k=118a0ÀWARANG CITI cbNGAAÛAÛWIÛYUÜAÜOÛIIÛUUÛE
ÛOÛANGÛGAÛKOÛENYÛYUJÛUCÛENNÛODDÛTTEÛNUNGÛDAÛATÜMÛBUÛPUÛHIYOÜOLOÝRRÜARÛSSUUÜIIÛVIYOÌdbNGAAÙAÙWIÙYU
ÚAÚOÙIIÙUUÙEÙOÙANGÙGAÙKOÙENYÙYUJÙUCÙENNÙODDÙTTEÙNUNGÙDAÙATÚMÙBUÙPUÙHIYOÚOLOÛRRÚARÙSSUUÚIIÙVIYO
ÌDIGIT ZEROÒONEÒTWOÓHREEÒFOURÓIVEÒSIXÓEVENÒEIGHTÒNINEÌNUMBER TENÔWENTYÔHIRTYÓFORTYÔIFTYÓSIXTY
ÔEVENTYÓEIGHTYÓNINETY=118ffÌOMÀDIVES AKURUbAÔAÓIÔIÓUÔUÓE=11909ÓO=1190cÓKAÔHAÓGAÔHAÓNGAÓCAÔHAÓJA
=11915ÓNYAÓTTA=11918ÓDDAÕHAÓNNAÓTAÔHAÓDAÔHAÓNAÓPAÔHAÓBAÔHAÓMAÓYAÔYAÓRAÓLAÓVAÓSHAÔSAÔAÓHAÓLLAÓZA
Ìyk AA×IØI×UØU×E=11937×AI×O=1193bÌk ANUSVARAÑCANDRABINDUÑHALANTAÌVIRAMAÌPREFIXED NASAL kÌMEDIAL YA
ÌINITIAL RAÌMEDIAL RAÌk NUKTAÌnDANDAÌGAP FILLERÌEND OF TEXT MARK=11950ÌDIGIT ZEROÒONEÒTWOÓHREE
ÒFOURÓIVEÒSIXÓEVENÒEIGHTÒNINE=119a0ÀNANDINAGARIbAÔAÓIÔIÓUÔUÓVOCALIC RÜR=119aaÓEÓAIÓOÓAUÓKAÔHAÓGA
ÔHAÓNGAÓCAÔHAÓJAÔHAÓNYAÓTTAÕHAÓDDAÕHAÓNNAÓTAÔHAÓDAÔHAÓNAÓPAÔHAÓBAÔHAÓMAÓYAÓRAÓLAÓVAÓSHAÔSAÔAÓHA
ÓLLAÓRRAÌyk AA×IØI×UØU×VOCALIC RàR=119da×E×AI×O×AUÌk ANUSVARAÑVISARGAÓRAMAÑAVAGRAHAÑSIDDHAMÌHEADw
Ìyk PRISHTHAMATRA E=11a00ÀZANABAZAR SQUAREbAÑyk IÜUEÝÜEÜOEÝÜAIÝUÜREVERSED I×LENGTH MARKÑvKAÙHAØGA
ÙHAØNGAØCAÙHAØJAØNYAØTTAÚHAØDDAÚHAØNNAØTAÙHAØDAÙHAØNAØPAÙHAØBAÙHAØMAØTSAÚHAØDZAÚHAØZHAÙAØ-AØYAØRA
ØLAØVAØSHAÙSAÙAØHAØKSSAÑFINAL CONSONANT MARKÑk VIRAMAÖCANDRABINDUáaORNAMENTÜaORNAMENTÖANUSVARA
ÖVISARGAÑCLUSTER-INITIALbRAÙFINALbYAæRAæLAæVAÑINITIAL HEAD MARKÑCLOSING HEAD MARKÑMARK TSHEGÖSHAD
ÖnSHADÖLONG TSHEGÑINITIAL DOUBLE-LINED HEAD MARKÑCLOSING DOUBLE-LINED HEAD MARKÑSUBJOINER
=11a50ÀSOYOMBObAÈyk IÓUEÔÓEÓOÔEÓAIÔUÓVOCALIC RÛLÎLENGTH MARKÈvKAÐHAÏGAÐHAÏNGAÏCAÐHAÏJAÐHAÏNYAÏTTA
ÑHAÏDDAÑHAÏNNAÏTAÐHAÏDAÐHAÏNAÏPAÐHAÏBAÐHAÏMAÏTSAÑHAÏDZAÏZHAÐAÏ-AÏYAÏRAÏLAÏVAÏSHAÐSAÐAÏHAÏKSSA
Èk JIHVAMULIYAÍUPADHMANIYAÈCLUSTER-INITIALbRAßLAßSHAàAÈFINAL CONSONANT k GÝKÝNGÝDÝNÝBÝMÝRÝLÝSHÞÝ-A
Èk ANUSVARAÍVISARGAÈGEMINATION MARKÈSUBJOINERÈMARK TSHEGÍSHADÍnSHADÍPLUTA
ÈHEAD MARKaMOONfSUNfTRIPLE FLAMEèFLAMEãÈTERMINAL MARK-1Ö2=11ab0ÀCANADIAN SYLLABICS NATTILIK HIÞIÝO
ÞOÝAÞAÜSHRIàIßOàOßAàAÓSPEÕIÕOÕAÀPAU CIN HAUbPAÓKAÓLAÓMAÓDAÓZAÓVAÓNGAÓHAÓGAÓKHAÓSAÓBAÓCAÓTAÔHAÓNA
ÓPHAÓRAÓFAÓCHAÓAÓEÓIÓOÓUÔAÓIAÓFINAL PÙKÙTÙMÙNÙLÙWÙNGÙYÌRISING TONE LONG×ÌSANDHI GLOTTAL STOP
ÌRISING TONE LONG FINALØFINALÌSANDHI GLOTTAL STOP FINALÓTONE LONG×× LONG FINALØFINAL
ÌMID-LEVEL TONEÌGLOTTAL STOP VARIANTÌMID-LEVEL TONE LONG FINALÛFINALÌLOW-FALLING TONE LONGÜ
ÌGLOTTAL STOPÌLOW-FALLING TONE LONG FINALÝFINALÌGLOTTAL STOP FINAL=11c00ÀBHAIKSUKIbAÒAÑIÒIÑUÒU
ÑVOCALIC RÚRÙL=11c0aÑEÑAIÑOÑAUÑKAÒHAÑGAÒHAÑNGAÑCAÒHAÑJAÒHAÑNYAÑTTAÓHAÑDDAÓHAÑNNAÑTAÒHAÑDAÒHAÑNAÑPA
ÒHAÑBAÒHAÑMAÑYAÑRAÑLAÑVAÑSHAÒSAÒAÑHAÊyk AAÕIÖIÕUÖUÕVOCALIC RÞRÝL=11c38ÕEÕAIÕOÕAUÊk CANDRABINDU
ÏANUSVARAÏVISARGAÑRAMAÏAVAGRAHAÊDANDAËOUBLE DANDAÊWORD SEPARATORÊGAP FILLER-1Õ2=11c50ÊDIGIT ZERO
ÐONEÐTWOÑHREEÐFOURÑIVEÐSIXÑEVENÐEIGHTÐNINEÊNUMBER ONEÑTWOÒHREEÑFOURÒIVEÑSIXÒEVENÑEIGHTÑNINEÑTEN
ÒWENTYÒHIRTYÑFORTYÒIFTYÑSIXTYÒEVENTYÑEIGHTYÑNINETYÊHUNDREDS UNIT MARK=11c70ÀMARCHEN HEAD MARK
ÈMARK SHADÈvKAÐHAÏGAÏNGAÏCAÐHAÏJAÏNYAÏTAÐHAÏDAÏNAÏPAÐHAÏBAÏMAÏTSAÑHAÏDZAÏWAÏZHAÐAÏ-AÏYAÏRAÏLAÏSHA
ÐAÏHAÏA=11c92ÈSUBJOINEDbKAÚHAÙGAÙNGAÙCAÚHAÙJAÙNYAÙTAÚHAÙDAÙNAÙPAÚHAÙBAÙMAÙTSAÛHAÙDZAÙWAÙZHAÚA
=11ca9ÙYAÙRAÙLAÙSHAÚAÙHAÙAÈyk AAÓIÓUÓEÓOÈk ANUSVARAÍCANDRABINDU=11d00ÂSARAM GONDIbAÖAÕIÖIÕUÖUÕE
=11d08ÕAIÕO=11d0bÕAUÕKAÖHAÕGAÖHAÕNGAÕCAÖHAÕJAÖHAÕNYAÕTTA×HAÕDDA×HAÕNNAÕTAÖHAÕDAÖHAÕNAÕPAÖHAÕBAÖHA
ÕMAÕYAÕRAÕLAÕVAÕSHAÖSAÖAÕHAÕLLAÕKSSAÕJNYAÕTRAÎyk AAÙIÚIÙUÚUÙVOCALIC R=11d3aÙE=11d3cÙAIÙO=11d3fÙAU
Îk ANUSVARAÓVISARGAÓNUKTAÓCANDRAÓHALANTAÎVIRAMAÎREPHAÏA-KARA=11d50ÎDIGIT ZEROÔONEÔTWOÕHREEÔFOUR
ÕIVEÔSIXÕEVENÔEIGHTÔNINE=11d60ÀGUNJALA GONDIbAÖAÕIÖIÕUÖU=11d67ÕEEÕAI=11d6aÕOOÕAUÕYAÕVAÕBAÖHAÕMAÕKA
ÖHAÕTAÖHAÕLAÕGAÖHAÕDAÖHAÕNAÕCAÖHAÕTTA×HAÕLLAÕJAÖHAÕDDA×HAÕNGAÕPAÖHAÕHAÕRAÕSAÎyk AAÙIÚIÙUÚU
=11d90ÙEEÙAI=11d93ÙOOÙAUÎk ANUSVARAÓVISARGAÎVIRAMAÎOM=11da0ÎDIGIT ZEROÔONEÔTWOÕHREEÔFOURÕIVEÔSIX
ÕEVENÔEIGHTÔNINE=11ee0ÀMAKASARbKAÏGAÏNGAÏPAÏBAÏMAÏTAÏDAÏNAÏCAÏJAÏNYAÏYAÏRAÏLAÏVAÏSAÏAÈANGKAÈyk IÓU
ÓEÓOÈPASSIMBANGÈEND OF SECTION=11fb0ÀLISUbYHA=11fc0ÀTAMIL FRACTION ONE THREE-HUNDRED-AND-TWENTIETH
ÓONE-HUNDRED-AND-SIXTIETHÓEIGHTIETHÓSIXTY-FOURTHÓFORTIETHÓTHIRTY-SECONDÏTHREE EIGHTIETHS
ÕSIXTY-FOURTHSÏONE TWENTIETHÓSIXTEENTH-1Ý2ÓTENTHÓEIGHTHÏTHREE TWENTIETHSÕSIXTEENTHSÏONE FIFTH
ÓQUARTERÓHALF-1Ø2ÏTHREE QUARTERSÏDOWNSCALING FACTOR KIIZHÆk NELËCEVITUËAAZHAAKKUËUZHAKKU
ËMUUVUZHAKKUËKURUNIËPATHAKKUËMUKKURUNIËKAACUËPANAMÌONËVARAAKANËPAARAMËKUZHIËVELIÆWET CULTIVATION k
ÆDRY CULTIVATION kÆLAND kÆSALT PAN kÆTRADITIONAL CREDIT kÒNUMBER kÆCURRENT kÆAND ODD kÆSPENT k
ÆTOTAL kÆIN POSSESSION kÆSTARTING FROM kÇIGN MUTHALIYAËVAKAIYARAA=11fffÆPUNCTUATION END OF TEXT
ÀCUNEIFORM k AÐsA×BAD×GAN2 TENU×HA×IGI×LAGAR GUNU×MUSH×SAGÐ2ÐBÑsASH2ØDUN3 GUNUØGALÚN2 TENUØHA
ØIGI GUNUÙMINØLAGABØSHESHØU PLUS U PLUS UÒGUNUÑ2ÒsBALAGÙGAN2 TENUÙME PLUS ENÙSHA3ÙTAK4ÐDÐKÑsERIN2
ØSHITA PLUS GISHÐLÑsALØDIM2ØGISHØHAØKAD3ÙIØSHEØUSHÑANÑEPHÐMARÓsSHEÐNÑ OVER ANÒTHREE TIMES
ÒPLUS NAGA OPPOSING AN PLUS NAGAÜSQUAREDÑSHEÐPINÐRADÓsKURÑKABÐSAL2ÑHÒ ZIDA TENUÓKABA TENU
ÓOVER ASH TUG2 OVER TUG2 TUG2 OVER TUG2 PAPÜOVER ASHä CROSSING ASH OVER ASH OVER ASHÒ2ÒGABÏBAÑDÑG3
ÑHAR2ÑLÒ OVER BALÒAGÑRÒA2ÐIÑsAØGARØIGI GUNUÐUÑ OVER BU ABÚUNÒCROSSING BUÑLUGÔ OVER BULUGÑRÒ2ÏDAÑG
Ò KISIM5sA PLUS MASHáMARàBALAGáIàGAâ PLUS MASHáIâR2áUDàHAàIRâ PLUS LUàKAKàLAáUâ PLUS MASH2âMàNE
àPAP PLUS PAPàSIàTAK4àU2 PLUS GIR2áSHÑMÑRÒA3Ó4ÐIÑBÑMÒsSHEÒ2ÑNÒ KASKAL U GUNU DISHÑSHÐUÑ OVER DU
ÒGUNUÒSHESHIGÑBÒsESH2Ò2ÑGÒUDÑHÑNÒ3Ó GUNUØ GUNUÒ4ÑR2ÏEÐsPAPÑOVER E NUN OVER NUNÐ2
ÑsA PLUS HA PLUS DAØGARØMIØSALÙHEØUÐDINÐGIRÐLÐNÑsGAN2Ü TENUØMEÒCROSSING ENÒOPPOSING ENÒSQUAREDÐREN
ÑIN2ÐSH2ÐZENÓsAÛ PLUS LALäsLALÛNÚBADÚDUN3 GUNUã GUNUÚHAÜ GUNUÚIGI GUNUÚKASKALà SQUAREDÛU3ÚLAÜLsLAL
ÛIÛUÚU2ÛDÏGAÑ GUNUÑ2ÒsA PLUS DA PLUS HAàHAàIGIÚB2 TENU PLUS TABÚNÚSHÜ2 PLUS GALÙBADÛR PLUS RAÚUR
Ü PLUS RAÙDAÚIÛMsSHEÚUBÙELÛ PLUS LAÚNÛsGAN2 TENUÙGAN2 TENUÛRÚIÛ4Ü PLUS AÛR2 PLUS SU
ÙHA PLUS LU PLUS ESH2ÛLÜ PLUS LAÚI PLUS LIÚUB2ÙIGI GUNUÚSH PLUS HU PLUS ASHÙKAKÛSKALÚIDÜ PLUS LAL
ÚU3 PLUS ANÙLAÙME PLUS ENÚIÙNUNÜ OVER NUNÙPAÙSALÛRÚHEÜ PLUS TURÛIDÚUMÙTAK4ÙUÚDÛ PLUS DUÓOVER GA2
ÑBAÓ CROSSING GABAÑDÒ OVER GAD GAR OVER GARÑLÒ GAD OVER GAD GAR OVER GARÒAMÑMÑNÒ2Ó TENUÔOVER GAN2
ÔCROSSING GAN2ÑRÒ3ÑSHANÐESHTINÖsKURÐIÑsEØUÒCROSSING GIÑ4Ò OVER GI4ÓCROSSING GI4ÑDIMÑR2Ó GUNUÒ3
ÓsA PLUS IGIÚGAN2 TENUÚIGIÚLU PLUS IGIÚPAÑSALÒHÓ CROSSING GISHÔTIMES BADÚTAK4ÕENUÐUÑ CROSSING GUÑ2
ÒsKAKÜsIGI GUNUÙNUNÙSAL PLUS TUG2ÓGUNUÑDÒsA PLUS KURÙKURÓOVER GUD LUGALÑLÑMÒsSHEÑRÒ7ÒUNÓSHÏHA
Ñ TENUÒGUNUÑLÐIÑsASHÛ2ØBADØDISHØGADØKINØNUNØSHEØUÐUÑB2ÓsANÚHALÚKASKALÚLISHÚUDÑL2ÏIÐ AÐBÐDIM
Ó OVER IDIM BURÞSQUAREDÐGÑIÒ DIBÓRIÓOVER IGI SHIR OVER SHIR UD OVER UDÓGUNUÐLÑsGAN2 TENUÑ2ÐMÑsTAK4
ÒCROSSING IMÒOPPOSING IMÒSQUAREDÑINÐNÐRÐSHÏKAÑsAÙDÚ PLUS KU3ÙSH2ØBADÚLAGÚRÙIØERIN2ÙSH2ØGAÚL
ÚN2 TENUÚRÛ PLUS SHA3 PLUS AÙIÚR2ÚSH PLUS SARÝCROSSING GISHÙUÚR7ØIGIÙMØKAKÙIÚDØLIÙUØMEÚ PLUS DUàGI
àTEÙIÚ PLUS NUNUZØNEÙUNØPIØRUØSAÚRÙHAÚEÚIDÚUÙIGÙUHURØTARØUÙ2ÙDÙMUMsPAÙSHØZIÑ2Ò CROSSING KA2ÑBÑD2Ò3
Ò4Ò5Ó OVER KAD5ÑKÒsIGI GUNUÑLÒsBADÓCROSSING KALÑM2Ò4ÑSKALÕ LAGABsU OVER LAGABsU
ÖOVER KASKAL LAGABsU OVER LAGABsUÐESH2ÐIÑsBADØUÙDÑDÑNÑSALÒHÒIM5Õ OVER KISIM5ÐU
Ñ OVER HIsASH2 KU OVER HIsASH2Ñ3Ñ4Ò VARIANT FORMÑ7ÑLÒ GUNUÑNÑRÒ OPPOSING KURÑSHU2ÐWU318ÏLAÑGABÔsA
Ü PLUS DA PLUS HAâGARâLALÜLÜNÜSH ZIDA TENUÛBADÜIÛDARÛENÛGAÝRÜUDÞ PLUS GUDÛHAÝLÜIsNUNÛIGI GUNUÜM
Ý PLUS HAãLUÛKIÝNÜU3ÝLÞ PLUS HI PLUS AÛLAGABÜISHÜUÝLÛMEÝ PLUS ENÜUSHÛNEÛSHE PLUS SUM
ÝITA PLUS GISH PLUS ERIN2ëTENUÝU2ß PLUS SHU2ÜUMÛTAGÝK4ÜE PLUS A PLUS SU PLUS NAÛUÜ PLUS AâU PLUS U
Ü2 PLUS ASHÜDÜSHÕSQUAREDÓRÔsSHEÞ PLUS SUMÕGUNUÙ OVER LAGAR GUNU SHEÑHSHUÑLÒsLALÑMÒsKURÜ PLUS RUÐI
ÑLÑMMU2ÑSHÐUÑsBADÑ2ÒsALÙBADÙESH2Ý TENUÙGAN2 TENUÙHIsBADÙIMÙKAD2Ü3Ý PLUS ASHÚIÙLA PLUS ASHÛGAB
ÙME PLUS ENÙNEÚUÙSI PLUS ASHÛK2 PLUS BUÙTUG2ÔENUÓCROSSING LU2ÓOPPOSING LU2ÓSQUAREDÔHESHIGÑ3ÑGAL
Ô OVER LUGALÖPPOSING LUGALÕSHESHIGÑHÑLÑMÒ OVER LUMÛ GAR OVER GARÏMAÑsTAK4ÒGUNUÑ2ÑHÑRÑSHÓ2ÐEÑSÐIÑN
ÐUÑ OVER MUÑGÒ GUNUÑNSUBÑRGU2ÑSHÓsAÚKURÚZAÔOVER MUSHÝsA PLUS NAÔCROSSING MUSHÓ3ÔsAÜ PLUS DIÛDI
ÕGUNUÏNAÑ2ÑGAÓ INVERTEDÔTIMES SHU TENUÔOPPOSING NAGAÓRÑM NUTILLUÒÒ2ÐEÑsAØUDÒSHESHIGÐIÑsEÑ2ÑM
ÒsGAN2 TENUÛR PLUS GAN2 TENUÑNDA2ÕsANÝSHß PLUS ASHÜGUDÜME PLUS GAN2 TENUÜNEÝUNÜSHEß PLUS A ANæSH
è PLUS ASHÜU2 PLUS ASHÝSHÑSAGÐUÑ11ÑNÒ LAGARsGARßMASHßSALâ OVER NUN LAGARsSALßUSHÓTENUÓOVER NUN
ÓCROSSING NUNß LAGAR OVER LAGARÒUZÔ AB2sASHGABßBIßDUGßGUDßIGI GUNUßKAD3ßLAßNEßSILA3ßU2ÕKISIM5sBI
ä UÏPAÑDÑNÑPÐESH2ÐIÑsAÙBØBIÙUØEØIÙBØUÙ2ÒCROSSING PIÑRIGÔsKALÛUDÛZAÕOPPOSING PIRIGÏRAÑBÐIÐUÏSA
ÑG NUTILLUÒÒsAÙDUÛBÙHAÙKAKÚURÙLUMÙMIÙNUNÙSALÚHIDÙTABÙU2ÚBÚMÚRÚSHÓOVER SAGÓGUNUÑLÒ LAGABsASH2ÑNGA2
ÑRÐHAÒ3ÓsAÚBADÚGISHÚNEÚSHU2ÚTURÚUÛ PLUS AÒ6ÒB6ÒR2ÑEÒ HUÓOVER SHE GAD OVER GAD GAR OVER GAR
ÜTAB OVER TAB GAR OVER GARÒG9ÒNÒSHÔ2ÔLAMÑIDÓsAÚIMÒMÓsAÚBALÛULUGÚDINÚGARÚIGIÝ GUNUÚKUSHU2ÚLULÚMUG
ÚSALÒNIGÒRÓ TENUÔOVER SHIR BUR OVER BURÒTAÑUÒ OVER INVERTED SHUÒ2ÒBURÐIÑ GUNUÑGÒ4Ó OVER SIG4 SHU2
ÑK2ÑLA3ÐUÑ OVER SUÑDÒ2ÑHURÑMÒASHÑRÒ9ÏTAÑ ASTERISKÒTIMES HIØMIÒGUNUÑB
Ò OVER TAB NI OVER NI DISH OVER DISHÓSQUAREDÑGÒsBIÙGUDÙSHEÛUÙTUG2ÙUDÑK4ÑRÐEÑ GUNUÐIÑ TENUÑLÑR
ÒsTAK4ÓOVER TIRÛ GAD OVER GAD GAR OVER GARÐUÑG2ÑKÑMÑRÒ OVER TUR ZA OVER ZAÏUÐ GUDÑU U
ÑOVER U PA OVER PA GAR OVER GARØSUR OVER SURØU REVERSED OVER U REVERSEDÐ2ÐBÐDÑ KUSHU2ÒTIMES BADØMI
ØU PLUS U PLUS Uç GUNUÒGUNUÒSHESHIGÙsBADÑUGÐMÑsLAGABØME PLUS DAØSHA3ØUÑBINÑUMÓsKASKALÚPAÐNÑ GUNUÐR
Ñ CROSSING URÒSHESHIGÑ2ÒsA PLUS HAàNAÚLÙHAÙNUNÙU2Û PLUS ASHáBIÑ4ÑIÒ3ÑUÒsAÚSHGABÙBARÙDUNÙGAÛL
ÛN2 TENUÛRÚUÙHAÙIGIÚMÚSHÙKIÙLUMÙMINÙPAÙSHEÚIG4ÙTUÙU PLUS GUDÚDÚRUDAÒDAÔsUÐSHÒsAÙKUÛRÙTAK4ÒXÒ2ÒUMX
ÐTUKIÐZ3ÒsKASKALÑUÏZAÑ TENUÒSQUAREDsKURÑGÑMXÐE2ÐIÑ OVER ZIÑ3ÑBÒ KABA TENUÑGÑZ2ÐUÑ5ÒsAÑBURÑM
ÏKAP ELAMITEÏABsNUNÑ2sAÐMARsKUGÏDAG KISIM5sU2 PLUS MASHÒ3ÐISH PLUS SHUÐUBsSHEÏEZENsGUDÚSHE
ÏGA2sAN PLUS KAK PLUS AÚSH2ÐE22ÐIGÏHUSHÏKAsANSHEÙSH3ØGISHÙUDØHIsASH2ØLUMØPAØSHULØTUØUR2ÏLAGABsGI
ÐU2 SHESHIGsBADÓTIMES ESH2 PLUS LALÙSHUÏMESHÐUSH3sZAÏNA4ÐINÒ9ÒDA2sBALÜGI
ÐU11 ROTATED NINETY DEGREESÏPESH2 ASTERISKÐIR2ÏSAGsIGI GUNUÏTI2ÏUMsMEÐ U=12400ÊNUMERIC k TWO ASH
ØHREE ASH×FOUR ASHØIVE ASH×SIX ASHØEVEN ASH×EIGHT ASH×NINE ASH×THREE DISH×FOUR DISHØIVE DISH
×SIX DISHØEVEN DISH×EIGHT DISH×NINE DISH×FOUR UØIVE U×SIX UØEVEN U×EIGHT U×NINE U×ONE GESH2
×TWO GESH2ØHREE GESH2×FOUR GESH2ØIVE GESH2×SIX GESH2ØEVEN GESH2×EIGHT GESH2×NINE GESH2×ONE GESHU
×TWO GESHUØHREE GESHU×FOUR GESHUØIVE GESHU×TWO SHAR2ØHREE SHAR2â VARIANT FORM×FOUR SHAR2ØIVE SHAR2
×SIX SHAR2ØEVEN SHAR2×EIGHT SHAR2×NINE SHAR2×ONE SHARU×TWO SHARUØHREE SHARUâ VARIANT FORM
×FOUR SHARUØIVE SHARU×SHAR2sGAL PLUS DISHìMIN×ONE BURU×TWO BURUØHREE BURUá VARIANT FORM×FOUR BURU
ØIVE BURU×THREE VARIANT FORM ESH16í21×FOUR VARIANT FORM LIMMUî4î AïB×SIX VARIANT FORM ASH9
ØEVEN VARIANT FORM IMIN3î AïB×EIGHT VARIANT FORM USSUî3×NINE VARIANT FORM ILIMMUï3ï4ï A
×TWO ASH TENUØHREE ASH TENU×FOUR ASH TENUØIVE ASH TENU×SIX ASH TENU×ONE BAN2×TWO BAN2ØHREE BAN2
×FOUR BAN2à VARIANT FORMØIVE BAN2à VARIANT FORM×NIGIDAMINÝESH×ONE ESHE3×TWO ESHE3×ONE THIRD DISH
×TWO THIRDS DISH×FIVE SIXTHS DISH×ONE THIRD VARIANT FORM A×TWO THIRDS VARIANT FORM A
×ONE EIGHTH ASHÛQUARTER ASHØLD ASSYRIAN ONE SIXTHèQUARTERØNE QUARTER GURÛHALF GUR
×ELAMITE ONE THIRDßTWO THIRDSßFORTYàIFTY×FOUR U VARIANT FORMØIVE U VARIANT FORM×SIX U VARIANT FORM
ØEVEN U VARIANT FORM×EIGHT U VARIANT FORM×NINE U VARIANT FORM
=12470ÊPUNCTUATION k OLD ASSYRIAN WORD DIVIDERÛt COLONÛDIAGONAL COLONäTRICOLONäQUADCOLON
=12480Êk ABsNUN TENUØSHU2ÐDsESH2ÏBADsDISH TENUÑHAR2sAB2ÜNIÜZAÐU OVER BUsNA2ÏDAsTAK4ÑGsKURÐIMsIGI
ÙU U UÒ2sUDÐUGsANSHEÚSHÜ AT LEFTÙDINÚUNÙERIN2ÙGAÚIÛR2 GUNUÛSHÙHAÚIÙIGI GUNUÙKASKALÚURÛSHU2
ß PLUS KASKALÙLAK-020ÛMÜsKURÚUH PLUS GISHÙMASHÚESÚIÙNIÙPIÙSHEÚI GUNUÏE2sKURØPAPÐRIN2 X
ÐSH2 CROSSING ESH2ÐZEN SHESHIGsASHâHIâIGI GUNUâLAäLâMEäSâSUÔTIMES SUÏGA2sBAHAR2ÙDIM GUNU
ÚUGsIGI GUNUãKASKALÙERENÙGAÛR PLUS DIâNEÙHA PLUS AÙKUSHU2 PLUS KASKALÙLAMÜsKURÚUHÙMUSHÙNEÛ PLUS E2
áGIÙSHIMÙZIZ2ÑBA ROTATED NINETY DEGREESÐESHTINsUÐISHsGISH CROSSING GISHÐU2sIGI GUNU
ÑD PLUS GISHsTAK4ÏHA TENU GUNUÐIsASH OVER HIsASHÏKAsBUØKAØU U UÙRÏLAGABsZU OVER ZUÑK-003Ô21Õ5Ô30
Ô50Õ1Ô62Ô79 OVER LAK-079 GUNUÔ80Õ1 OVER LAK-081Ô92Ó130Ô42Ó210Õ9Ô20Õ5Õ8Ô38Ô65Õ6Ó343Õ7Õ8Ô83Õ4Ô90Ó441
Õ9ÖsGUÝIGIÝPAP PLUS LU3æPAP PLUS LU3ÝU2 PLUS BAÔ50Õ7Ô70Ô83Ô90Õ2Õ3Õ5Ó550Ó608Ô17ÖsASHÝBAD
ÝDUN3 GUNU GUNUÝKU3ÝLAÝTARÞEÝU2ÞDÞRUDAÔ36Ô48ÖsDUBÝGAÝIGIà GUNUÝNIÝPAP PLUS PAP PLUS LU3
ÝSHESH PLUS KIÝUDÞRUDAÓ724Ô49ÐU2 GUNUsASHÓTIMES DISHÙHALÙPAPÜ PLUS PAP PLUS LU3ÙTAK4ÏMI PLUS ZA7
ÐUSH OVER MUSHsGAäKAKÏNINDA2sDIM GUNUÜGISHÝULÜHIÜKESH2ÜLAK-050ÜMASHÜPAP PLUS PAPÜUÝ PLUS UÝRUDA
ÏSAG GUNUsHAÓTIMES ENÙSHE AT LEFTÙTAK4ÐHA6 TENUÑE OVER SHEÓPLUS HUB2ØNAM2ØSARÑU2 PLUS DUGsNIÙE2sAN
ÐIsTAK4ÏTAK4 PLUS SAGÐUMsGAN2 TENUÙTHREE DISHÏUR2 INVERTEDÓTIMES UDÑUsDARA3ÙLAK-668ÚU3ÏZA7
ÐU OVER ZU PLUS SARÑ5sTHREE DISH TENU=12f90ÁYPRO-MINOAN k CM001Ö2Ö4Ö5Ö6Ö7Ö8Ö9Õ10Ö1Ö2×BÖ3Ö5Ö7Ö9Õ21
Ö3Ö4Ö5Ö6Ö7Ö8Ö9Õ30Ö3Ö4Ö5Ö6Ö7Ö8Ö9Õ40Ö1Ö4Ö6Ö7Ö9Õ50Ö1Ö2Ö3Ö4Ö5Ö6Ö8Ö9Õ60Ö1Ö2Ö3Ö4Ö6Ö7Ö8Ö9Õ70Ö1Ö2Ö3Ö4Ö5×B
Ö6Ö8Ö9Õ80Ö1Ö2Ö3Ö4Ö5Ö6Ö7Ö8Ö9Õ90Ö1Ö2Ö4Ö5Ö6Ö7Ö8Ö9Ô100Ö1Ö2Ö3Ö4Ö5Ö7Ö8Ö9Õ10Ö2Ö4Ô301Ö2
=13000ÀEGYPTIAN HIEROGLYPH A001×2×3×4×5ØA×6ØAØB×7×8×9Ö10×1×2×3×4ØA×5×6×7ØA×8×9Ö20×1×2×3×4×5×6×7×8
×9Ö30×1×2ØA×3×4×5×6×7×8×9Ö40ØA×1×2ØA×3ØA×4×5ØA×6×7×8×9Ö50×1×2×3×4×5×6×7×8×9Ö60×1×2×3×4×5×6×7×8×9
Ö70ÔB001×2×3×4×5ØA×6×7×8×9ÔC001×2ØAØBØC×3×4×5×6×7×8×9Ö10ØA×1×2×3×4×5×6×7×8×9Ö20×1×2×3×4ÔD001×2×3×4
×5×6×7×8ØA×9Ö10×1×2×3×4×5×6×7×8×9Ö20×1×2×3×4×5×6×7ØA×8×9Ö30×1ØA×2×3×4ØA×5×6×7×8×9Ö40×1×2×3×4×5×6ØA
×7×8ØA×9Ö50ØAØBØCØDØEØFØGØHØI×1×2ØA×3×4ØA×5×6×7×8×9Ö60×1×2×3×4×5×6×7ØAØBØCØDØEØFØGØHÔE001×2×3×4×5
×6×7×8ØA×9ØAÖ10×1×2×3×4×5×6ØA×7ØA×8×9Ö20ØA×1×2×3×4×5×6×7×8ØA×9Ö30×1×2×3×4ØA×6×7×8ÔF001ØA×2×3×4×5×6
×7×8×9Ö10×1×2×3ØA×4×5×6×7×8×9Ö20×1ØA×2×3×4×5×6×7×8×9Ö30×1ØA×2×3×4×5×6×7ØA×8ØA×9Ö40×1×2×3×4×5ØA×6ØA
×7ØA×8×9Ö50×1ØAØBØC×2×3ÔG001×2×3×4×5×6ØA×7ØAØB×8×9Ö10×1ØA×2×3×4×5×6×7×8×9Ö20ØA×1×2×3×4×5×6ØA×7×8×9
Ö30×1×2×3×4×5×6ØA×7ØA×8×9Ö40×1×2×3ØA×4×5ØA×6×7×8×9Ö50×1×2×3×4ÔH001×2×3×4×5×6ØA×7×8ÔI001×2×3×4×5ØA
×6×7×8×9ØAÖ10ØA×1ØA×2×3×4×5ÔK001×2×3×4×5×6×7×8ÔL001×2ØA×3×4×5×6ØA×7×8ÔM001ØAØB×2×3ØA×4×5×6×7×8×9
Ö10ØA×1×2ØAØBØCØDØEØFØGØH×3×4×5ØA×6ØA×7ØA×8×9Ö20×1×2ØA×3×4ØA×5×6×7×8ØA×9Ö30×1ØA×2×3ØAØB×4×5×6×7×8
×9Ö40ØA×1×2×3×4ÔN001×2×3×4×5×6×7×8×9Ö10×1×2×3×4×5×6×7×8ØAØB×9Ö20×1×2×3×4×5ØA×6×7×8×9Ö30×1×2×3ØA×4
ØA×5ØA×6×7ØA×8×9Ö40×1×2ÕL001Ø2Ø3Ø4Ø5ÙAØ6Ø7Ø8Ø9×10Ø1Ø2Ø3Ø4Ø5Ø6Ø7ÙAØ8Ø9×20ÕU001Ø2Ø3Ø4Ø5Ø6Ø7Ø8Ø9×10ÙA
Ø1ÙAØ2Ø3Ø4Ø5Ø6Ø7Ø8ÙAØ9×20Ø1Ø2ÙAÔO001ØA×2×3×4×5ØA×6ØAØBØCØDØEØF×7×8×9Ö10ØAØBØC×1×2×3×4×5×6×7×8×9ØA
Ö20ØA×1×2×3×4ØA×5ØA×6×7×8×9ØAÖ30ØA×1×2×3ØA×4×5×6ØAØBØCØD×7×8×9Ö40×1×2×3×4×5×6×7×8×9Ö50ØAØB×1ÔP001
ØA×2×3ØA×4×5×6×7×8×9Ö10×1ÔQ001×2×3×4×5×6×7ÔR001×2ØA×3ØAØB×4×5×6×7×8×9Ö10ØA×1×2×3×4×5×6ØA×7×8×9Ö20
×1×2×3×4×5×6×7×8×9ÔS001×2ØA×3×4×5×6ØA×7×8×9Ö10×1×2×3×4ØAØB×5×6×7ØA×8×9Ö20×1×2×3×4×5×6ØAØB×7×8×9Ö30
×1×2×3×4×5ØA×6×7×8×9Ö40×1×2×3×4×5×6ÔT001×2×3ØA×4×5×6×7ØA×8ØA×9ØAÖ10×1ØA×2×3×4×5×6ØA×7×8×9Ö20×1×2×3
×4×5×6×7×8×9Ö30×1×2ØA×3ØA×4×5×6ÔU001×2×3×4×5×6ØAØB×7×8×9Ö10×1×2×3×4×5×6×7×8×9Ö20×1×2×3ØA×4×5×6×7×8
×9ØAÖ30×1×2ØA×3×4×5×6×7×8×9Ö40×1×2ÔV001ØAØBØCØDØEØFØGØHØI×2ØA×3×4×5×6×7ØAØB×8×9Ö10×1ØAØBØC×2ØAØB×3
×4×5×6×7×8×9Ö20ØAØBØCØDØEØFØGØHØIØJØKØL×1×2×3ØA×4×5×6×7×8ØA×9ØAÖ30ØA×1ØA×2×3ØA×4×5×6×7ØA×8×9Ö40ØA
ÔW001×2×3ØA×4×5×6×7×8×9ØAÖ10ØA×1×2×3×4ØA×5×6×7ØA×8ØA×9Ö20×1×2×3×4ØA×5ÔX001×2×3×4ØAØB×5×6ØA×7×8ØA
ÔY001ØA×2×3×4×5×6×7×8ÔZ001×2ØAØBØCØD×3ØAØB×4ØA×5ØA×6×7×8×9Ö10×1×2×3×4×5ØAØBØCØDØEØFØGØHØI×6ØAØBØC
ØDØEØFØGØHÔAA001Ø2Ø3Ø4Ø5Ø6Ø7ÙAÙBØ8Ø9×10Ø1Ø2Ø3Ø4Ø5Ø6Ø7Ø8Ø9×20Ø1Ø2Ø3Ø4Ø5Ø6Ø7Ø8Ø9×30Ø1Ø2
=13430Ôt JOINERÔHORIZONTAL JOINERÔINSERT AT TOP STARTÞBOTTOM STARTÞTOP ENDÞBOTTOM END
ÔOVERLAY MIDDLEÔBEGIN SEGMENTÔEND SEGMENT=14400ÀANATOLIAN HIEROGLYPH A001Ø2Ø3Ø4Ø5Ø6Ø7Ø8Ø9×10ÙAØ1Ø2
Ø3Ø4Ø5Ø6Ø7Ø8Ø9×20Ø1Ø2Ø3Ø4Ø5Ø6ÙAØ7Ø8Ø9×30Ø1Ø2Ø3Ø4Ø5Ø6Ø7Ø8Ø9ÙA×40Ø1ÙAØ2Ø3Ø4Ø5ÙAØ6ÙAÙBØ7Ø8Ø9×50Ø1Ø2Ø3
Ø4Ø5Ø6Ø7Ø8Ø9×60Ø1Ø2Ø3Ø4Ø5Ø6ÙAÙBÙCØ7Ø8Ø9×70Ø1Ø2Ø3Ø4Ø5Ø6Ø7Ø8Ø9×80Ø1Ø2Ø3Ø4Ø5Ø6Ø7Ø8Ø9×90Ø1Ø2Ø3Ø4Ø5Ø6Ø7
ÙAØ8ÙAØ9Ö100ÙAØ1ÙAØ2ÙAØ3Ø4ÙAÙBÙCØ5ÙAÙBØ6Ø7ÙAÙBÙCØ8Ø9×10ÙAÙBØ1Ø2Ø3Ø4Ø5ÙAØ6Ø7Ø8Ø9×20Ø1Ø2Ø3Ø4Ø5ÙAØ6Ø7
Ø8Ø9×30Ø1Ø2Ø3Ø4Ø5ÙAØ6Ø7Ø8Ø9×40Ø1Ø2Ø3Ø4Ø5Ø6Ø7Ø8Ø9×50Ø1Ø2Ø3Ø4Ø5Ø6Ø7Ø8Ø9×60Ø1Ø2Ø3Ø4Ø5Ø6Ø7Ø8Ø9×70Ø1Ø2
Ø3Ø4Ø5Ø6Ø7Ø8Ø9×80Ø1Ø2Ø3Ø4Ø5Ø6Ø7Ø8Ø9×90Ø1Ø2Ø3Ø4Ø5Ø6Ø7Ø8Ø9Ö200Ø1Ø2ÙAÙBØ3Ø4Ø5Ø6Ø7ÙAØ8Ø9ÙA×10Ø1Ø2Ø3Ø4
Ø5ÙAØ6ÙAØ7Ø8Ø9×20Ø1Ø2Ø3Ø4Ø5Ø6Ø7ÙAØ8Ø9×30Ø1Ø2Ø3Ø4Ø5Ø6Ø7Ø8Ø9×40Ø1Ø2Ø3Ø4Ø5Ø6Ø7Ø8Ø9×50Ø1Ø2Ø3Ø4Ø5Ø6Ø7Ø8
Ø9×60Ø1Ø2Ø3Ø4Ø5Ø6Ø7ÙAØ8Ø9×70Ø1Ø2Ø3Ø4Ø5Ø6Ø7Ø8Ø9×80Ø1Ø2Ø3Ø4Ø5Ø6Ø7Ø8Ø9ÙA×90Ø1Ø2Ø3Ø4ÙAØ5Ø6Ø7Ø8Ø9ÙAÖ300
Ø1Ø2Ø3Ø4Ø5Ø6Ø7Ø8Ø9ÙA×10Ø1Ø2Ø3Ø4Ø5Ø6Ø7Ø8Ø9×20Ø1Ø2Ø3Ø4Ø5Ø6Ø7Ø8Ø9ÙA×30Ø1Ø2AÙBÙCØ3Ø4Ø5Ø6ÙAÙBÙCØ7Ø8Ø9
×40Ø1Ø2Ø3Ø4Ø5Ø6Ø7Ø8Ø9×50Ø1Ø2Ø3Ø4Ø5Ø6Ø7Ø8Ø9ÙA×60Ø1Ø2Ø3Ø4ÙAØ5Ø6Ø7Ø8ÙAØ9×70Ø1ÙAØ2Ø3Ø4Ø5Ø6Ø7Ø8Ø9×80Ø1
ÙAØ2Ø3 RA OR RIÙAØ4Ø5Ø6ÙAØ7Ø8Ø9×90Ø1Ø2Ø3 EIGHTØ4Ø5Ø6Ø7Ø8Ø9Ö400Ø1Ø2Ø3Ø4Ø5Ø6Ø7Ø8Ø9
×10 BEGIN LOGOGRAM MARKÙA END LOGOGRAM MARKØ1Ø2Ø3Ø4Ø5Ø6Ø7Ø8Ø9×20Ø1Ø2Ø3Ø4Ø5Ø6Ø7Ø8Ø9×30Ø1Ø2Ø3Ø4Ø5Ø6
Ø7Ø8Ø9×40Ø1Ø2Ø3Ø4Ø5Ø6Ø7Ø8Ø9×50ÙAØ1Ø2Ø3Ø4Ø5Ø6Ø7ÙAØ8Ø9×60Ø1Ø2Ø3Ø4Ø5Ø6Ø7Ø8Ø9×70Ø1Ø2Ø3Ø4Ø5Ø6Ø7Ø8Ø9×80
Ø1Ø2Ø3Ø4Ø5Ø6Ø7Ø8Ø9×90Ø1Ø2Ø3Ø4Ø5Ø6Ø7Ö501Ø2Ø3Ø4Ø5Ø6Ø7Ø8Ø9×10Ø1Ø2Ø3Ø4Ø5Ø6Ø7Ø8Ø9×20Ø1Ø2Ø3Ø4Ø5Ø6Ø7Ø8Ø9
×30=16800ÀBAMUMbPHASE-A NGKUE MFONÕGBIEE FONÕPON MFON PIPAEMGBIEEäBAÕNAA MFONÕSHUENSHUETÕTITA MFON
ÕNZA MFONÕSHINDA PA NJIÕPON PA NJI PIPAEMGBIEEæBAÕMAEMBGBIEEÕTU MAEMBAÕNGANGUÕMAEMVEUX×NSUAE
ÖVEUAENGAMÕSEUNYAMÕNTOQPENÕKEUKEUTNDAÕNKINDIÕSUUÕNGKUENZEUMÕLAPAQÖET KUTÕNTAP MFAAÕMAEKEUPÕPASHAE
ÕGHEUAERAEÕPAMSHAEÕMON NGGEUAETÕNZUN MEUTÕU YUQ NAEÕGHEUAEGHEUAEÕNTAP NTAAÕSISAÕMGBASAÖEUNJOMNDEUQ
ÖOOMPUQÕKAFAÕPA LEERAEWAÕNDA LEERAEWAÕPETÕMAEMKPENÕNIKAÕPUPÕTUAEPÕLUAEPÕSONJAMÕTEUTEUWENÕMAENYI
ÕKETÕNDAANGGEUAETÕKUOQÕMOOMEUTÕSHUMÕLOMMAEÕFIRIÕROMÕKPOQÕSOQÕMAP PIEETÕSHIRAEÕNTAPÕSHOQ NSHUT YUM
ÕNYIT MONGKEUAEQÕPAARAEÕNKAARAEÕUNKNOWNÕNGGENÕMAESIÕNJAMÕMBANYIÕNYETÕTEUAENÕSOTÕPAAMÕNSHIEEÕMAEM
ÕNYIÕKAQÕNSHAÕVEEÕLUÕNENÖAQÕMBAQÓB NSHUETÕTU MAEMGBIEEÕSIEEÖET TUÕLOM NTEUMÕMBA MAELEEÕKIEEM
ÕYEURAEÕMBAARAEÕKAMÕPEESHIÕYAFU LEERAEWAÕLAM NSHUT NYAMÕNTIEE SHEUOQÖDU NJAAÕGHEUGHEUAEMÕPIT
ÕTU NSIEEÕSHET NJAQØUAEQTUÕMFON TEUAEQÖBIT MBAAKETÕNYI NTEUMÕKEUPUQÕGHEUGHENÕKEUYEUXÕLAANAEÕPARUM
ÕVEUMÕNGKINDI MVOP×GEU MBUÕWUAETÕSAKEUAEÕTAAMÕMEUQÕNGGUOQÛ LARGEÕMFIYAQÕSUEÕMBEURIÖONTIEENÕNYAEMAE
ÕPUNGAAMÕMEUT NGGEETÕFEUXÕMBUOQÕFEEÕKEUAEMÕMA NJEUAENAÚUQAÕLETÕNGGAAMÖSENÕMAÕKIQÕNGOM
ÓC NGKUE MAEMBAÖZAÕYUMÕWANGKUOQÕNGGENÖDEUAEREEÖGKAQÕGHARAEÕMBEEKEETÕGBAYIÕNYIR MKPARAQ MEUN
ÖTU MBITÕMBEUMÕPIRIEENÕNDOMBUÕMBAA CABBAGE-TREEÕKEUSHEUAEPÕGHAPÕKEUKAQÕYU MUOMAEÕNZEUMÕMBUE
ÕNSEUAENÕMBITÕYEUQÕKPARAQÖAAÕSEUXÕNDIDAÕTAASHAEÕNJUEQÕTITA YUEÕSUAETÕNGGUAEN NYAMÕVEUXÕNANSANAQ
ÕMA KEUAERIÕNTAAÖGGUONÕLAPÕMBIRIEENÖGBASAQÕNTEUNGBAÕTEUTEUXÕNGGUMÕFUEÕNDEUTÖSA×HAQÕBUNGÕVEUAEPEN
ÕMBERAEÕRUÕNJAEMÕLAMÕTITUAEPÕNSUOT NGOMÖJEEEEÕKETÕNGGUÕMAESIÖBUAEMÕLUÕKUTÕNJAMÖGOMÕWUPÕNGGUEETÖSOM
ÖTENÕKUOP NKAARAEÕNSUNÖDAMÕMA NSIEEÕYAAÕNDAPÕSHUEQÖETFONÕMBIÖAEMBAÖBANYIÕKEUSEUXÕMBEUXÕKEUM
ÕMBAA PICKETÕYUWOQÕNJEUXÕMIEEÖUAEÕSHIQÕKEN LAWÙFATIGUEÕNGAQÖAQÕLIQÕPINÖENÕTETÓD MBUOÕWAPÕNJIÕMFON
ÕNJIEEÕLIEEÕNJEUTÖSHEEÖGGAAMAEÖYAMÕWUAENÕNGKUNÕSHEEÕNGKAPÕKEUAETMEUNÕTEUTÕSHEUAEÕNJAPÕSUEÕKET
ÕYAEMMAEÕKUOMÕSAPÕMFEUTÕNDEUXÕMALEERIÖEUTÕSEUAEQÕYENÕNJEUAEMÕKEUOT MBUAEÕNGKEURIÕTUÕGHAAÕNGKYEE
ÕFEUFEUAETÕNDEEÕMGBOFUMÕLEUAEPÕNDONÕMONIÖGBEUNÕPUUTÕMGBIEEÖFOÕLUMÕNSIEEPÕMBAAÕKWAETÕNYETÕTEUAEN
ÕSOTÕYUWOQÕKEUMÕRAEMÕTEEEEÕNGKEUAEQÕMFEUAEÕNSIEETÕKEUPÕPIPÖEUTAEÕNYUEÕLETÕNGGAAMÕMFIEEÕNGGWAEN
ÕYUOMÕPAPÕYUOPÕNDAMÖTEUMÕSUAEÕKUNÕNGGEUX×KIEEÕTUOTÕMEUNÕKUQÕNSUMÕTEUNÕMAENJETÕNGGAPÕLEUMÕNGGUOM
ÖSHUTÖJUEQÕGHEUAEÕKUÕREN OLDÕTAEÖOQÕNYIÕRIIÕLEEEEÕMEEEEÖÕSUUÕMUÕSHII×EUXÕKYEEÕNUÕSHUÕNTEEÕPEEÕNI
ÕSHOQÕPUQÕMVOPÕLOQÕREN MUCHÕTIÕNTUUÕMBAA SEVENÕSAQÕFAAÓE NDAPÕTOONÕMBEUMÕLAPÕVOMÕLOONÕPAAÕSOMÕRAQ
ÕNSHUOPÖDUNÕPUAEÕTAMÕNGKAÕKPEUXÕWUOÕSEEÕNGGEUAETÕPAAMÕTOOÕKUOPÕLOMÕNSHIEEÖGOPÕMAEMÕNGKEUX×OQÖSHUE
ÕRIMGBAÕNJEUXÕPEEMÕSAAÕNGGURAEÕMGBAÕGHEUXÕNGKEUAEMÖJAEMLIÕMAPÕLOOTÕNGGEEEEÖDIQÕTAEN NTEUMÕSETÕPUM
ÕNDAA SOFTNESSÖGGUAESHAE NYAMÕYIEEÕGHEUNÕTUAEÕYEUAEÕPOÕTUMAEÕKEUAEÕSUAENÕTEUAEQÕVEUAEÕWEUXÕLAAMÕPU
ÕTAAQÕGHAAMAEÕNGEUREUTÕSHEUAEQÕMGBENÖBEEÕNZAQÖKOMÕGBETÕTUMÕKUETÕYAPÕNYI CLEAVERÕYITÕMFEUQÕNDIAQ
ÕPIEEQÕYUEQÕLEUAEMÕFUEÕGBEUXÕNGKUPÕKETÕMAEÕNGKAAMIÕGHETÕFAÕNTUMÕPEUTÕYEUMÕNGGEUAEÖYI BETWEENÖZUQ
ÕPOONÕMIEEÕFUETÕNAEÕMUAEÕGHEUAEÕFU IÕMVIÕPUAQÕNGKUMÕKUTÕPIETÕNTAPÕYEUAETÕNGGUPÕPA PEOPLEÕFU CALL
ÖOMÕNJEEÕAÕTOQÕOÕIÕLAQÕPA PLURALÕTAA×QÕNDAA MY HOUSEÕSHIQÕYEUXÕNGUAEÕYUAENÖOQ SWIMMINGÙCOVERÖUQ×N
ÕKEUXÕPEUXÕNJEE EPOCHÕPUEÕWUEÕFEEÕVEEÕLUÕMIÕREUXÖAEÕNGUAET×AÕSHOØQÕFU REMEDYÕNAÕPIÕLOQÕKOÕMENÖA×Q
ÕTEUÕKIÕMONÕTENÕFAQÕGHOMÓF KAÕUÕKUÕEEÕREEÕTAEÕNYIÕLAÕRII×EEÕMEEEEÕTAAÕNDAAÖJAEMÕMÕSUUÖHIIÖIÖEUX
ÕKYEEÖETÕNUAE×ÖJUAEÕYOQÕSHUÕYAÕNSHAÕPEUXÕNTEEÕWUEÕPEEÕRUÕNIÕREUXÕKENÕNGKWAEN×GAÕSHOÕPUAEÕFOMÕWAÕLI
ÖOQÕKOÕMBENÕRENÕMAÖOÖBAAÕTETÕKPAÕSAMBAÕVUEQ=16a40ÀMRObTAËNGIËYOËMIMËBAËDAËAËPHIËKHAIËHAOËDAIËCHU
ËKEAAEËOLËMAEMËNINËPAËOOÌËROËSHIËTHEAËEAËWAËEËKOËLANÍËHAIËRIËTEK=16a60ÄDIGIT ZEROÊONEÊTWOËHREE
ÊFOURËIVEÊSIXËEVENÊEIGHTÊNINE=16a6eÅANDAÅOUBLE DANDAÀTANGSAbOZÏCÏQÏXÎAZÏCÏQÏXÎVZÏCÏQÏXÎEZÏCÏQÏXÎIZ
ÏCÏQÏXÎUZÏCÏQÏXÎAWZÐCÐQÐXÎUIZÐCÐQÐXÎFINAL NGÎLONG UEXÎSHORT UEZÔAWXÎUECÐZÐQÐXÏIUZÑCÑQÑXÎMZÏCÏQÏX
ÎKAÏHAÎGAÎNGAÎSAÎYAÎWAÎPAÎNYAÎPHAÎBAÎMAÎNAÎHAÎLAÎHTAÎTAÎDAÎRAÎNHAÎSHAÎCAÎTSAÎGHAÎHTTAÎTHAÎXAÎFA
ÎDHAÎCHAÎZA=16ac0ÇDIGIT ZEROÍONEÍTWOÎHREEÍFOURÎIVEÍSIXÎEVENÍEIGHTÍNINE=16ad0ÀBASSA VAHbENNIÑKAÑSE
ÑFAÑMBEÑYIEÑGAHÑDHIIÑKPAHÑJOÑHWAHÑWAÑZOÑGBUÑDOÑCEÑUWUÑTOÑBAÑVUÑYEINÑPAÑWADDAÑAÑOÒOÑUÑEEÒÑI
=16af0ÊCOMBINING HIGH TONEÔLOW TONEÔMID TONEÔLOW-MID TONEÔHIGH-LOW TONEÊFULL STOP
=16b00ÀPAHAWH HMONG yKEEBÖVÔIBÕVÔAUBÖVÔUBÕVÔEBÕVÔAIBÖVÔOOBÖVÔAWBÖVÔUABÖVÔOBÕVÔIABÖVÔABÕVÔWBÕVÔAAB
ÖVÍCONSONANT VAU×NTSAU×LAU×HAU×NLAU×RAU×NKAU×QHAU×YAU×HLAU×MAU×CHAU×NCHAU×HNAU×PLHAU×NTHAUØAU×AU
×XAU×CAUÍMARK CIM TUBÖSOÖKES×HAVÖSUAMÖHOMÖTAUMÍk VOS THOM×SHAB CEEBÒCIM CHEEMÒVOS THIABÖFEEM
ÒXYEEM NTXIVØRHOØTOVØFAIBÒVOS SEEVÒMEEJ SUABÒVOS NRUAÒIB YAMÒXAUSÒCIM TSOV ROG=16b50ÍDIGIT ZERO
ÓONEÓTWOÔHREEÓFOURÔIVEÓSIXÔEVENÓEIGHTÓNINE=16b5bÍNUMBER TENSÔHUNDREDSÔTEN THOUSANDSÔMILLIONS
ÔHUNDRED MILLIONSÔTEN BILLIONSÕRILLIONS=16b63Ík VOS LUBÒXYOOÒHLIÒTHIRD-STAGE HLIÒZWJ THAJÒHNUB
ÒNQIGÒXIABÒNTUJÒAVÒTXHEEJ CEEVÒMEEJ TSEEBÒTAUÒLOSÒMUSÒCIM HAIS LUS NTOG NTOGÖCUAM TSHOOJÖTXWV
Ú CHWVÖPUB DAWBÖNRES TOS=16b7dÍCLAN k TSHEEJ×YEEG×LISØAUJ×XYOOJ×KOO×HAWJ×MUAS×THOJØSAB×PHAB×KHAB
×HAM×VAJ×FAJ×YAJ×TSWB×KWM×VWJ=16e40ÀMEDEFAIDRIN cbMÛSÛVÛWÛATIUÛZÛKPÛPÛTÛGÛFÛIÛKÛAÛJÛEÛBÛCÛUÛYUÛLÛQ
ÛHPÛNYÛXÛDÛOEÛNÛRÛOÛAIÛYÌdbMÙSÙVÙWÙATIUÙZÙKPÙPÙTÙGÙFÙIÙKÙAÙJÙEÙBÙCÙUÙYUÙLÙQÙHPÙNYÙXÙDÙOEÙNÙRÙOÙAI
ÙYÌDIGIT ZEROÒONEÒTWOÓHREEÒFOURÓIVEÒSIXÓEVENÒEIGHTÒNINEÌNUMBER TENÓELEVENÓTWELVEÔHIRTEENÓFOURTEEN
ÔIFTEENÓSIXTEENÔEVENTEENÓEIGHTEENÓNINETEENÌDIGIT ONE ALTERNATE FORMÒTWO ALTERNATE FORM
ÓHREE ALTERNATE FORMÌCOMMAÌFULL STOPÌz AIVAÌEXCLAMATION OH=16f00ÁIAObPAÌBAÌYI PAÌPLAÌMAÍHA
ÌARCHAIC MAÌFAÌVAÍFAÌTAÌDAÌYI TTAÐAÌTTAÌDDAÌNAÍHAÌYI NNAÌARCHAIC NAÌNNAÎHAÌLAÍYAÍHAÎYAÌTLHAÌDLHA
ÌTLHYAÌDLHYAÌKAÌGAÌYI KAÌQAÍGAÌNGAÎHAÌARCHAIC NGAÌHAÌXAÌGHAÎHAÌTSSAÌDZZAÌNYAÎHAÌTSHAÌDZHAÌYI TSHA
ÏDZHAÌREFORMED TSHAÌSHAÍSAÌZHAÍSHAÌTSAÌDZAÌYI TSAÌSAÌZAÍSAÍZAÎSAÌARCHAIC ZZAÌZZYAÎSYAÌWAÌAHÌHHA
ÌBRIÌSYIÌDZYIÌTEÍSEÌRTE=16f4fÅk CONSONANT MODIFIER BARÅvNASALIZATIONÅk ASPIRATIONÊREFORMED VOICING
ÓASPIRATIONÅyk AÑAÑHHÑNÒGÐOÑOÐWOÑÐEÑNÒGÐOEYÐIÑAÒNÓGÑOÑEÑIÑUÑNGÐUÑAÒNÓGÑUÑEIÑNGÐYÑIÐAEÒEÐERR
ÐROUNDED ERRÐERÐROUNDED ERÐAIÐEIÐAUÐOUÐNÑGÐUOGÐYUIÐOGÑERÐVWÐIGÐEAÐIONGÐUI=16f8fÅTONE mÊTOP mÊABOVE
ÊBELOWÅvTONE-2Ñ3Ñ4Ñ5Ñ6Ñ7Ñ8ÌREFORMED TONE-1Ú2Ú4Ú5Ú6Ú8=16fe0ÀTANGUT ITERATION MARK
ÀNUSHU ITERATION MARKÀOLD CHINESE HOOK MARKÌITERATION MARKÀKHITAN d SCRIPT FILLER
=16ff0ÀVIETNAMESE ALTERNATE READING MARK CAâNHAY=18800ÀTANGUT COMPONENT-001Ó2Ó3Ó4Ó5Ó6Ó7Ó8Ó9Ò10Ó1Ó2
Ó3Ó4Ó5Ó6Ó7Ó8Ó9Ò20Ó1Ó2Ó3Ó4Ó5Ó6Ó7Ó8Ó9Ò30Ó1Ó2Ó3Ó4Ó5Ó6Ó7Ó8Ó9Ò40Ó1Ó2Ó3Ó4Ó5Ó6Ó7Ó8Ó9Ò50Ó1Ó2Ó3Ó4Ó5Ó6Ó7Ó8Ó9
Ò60Ó1Ó2Ó3Ó4Ó5Ó6Ó7Ó8Ó9Ò70Ó1Ó2Ó3Ó4Ó5Ó6Ó7Ó8Ó9Ò80Ó1Ó2Ó3Ó4Ó5Ó6Ó7Ó8Ó9Ò90Ó1Ó2Ó3Ó4Ó5Ó6Ó7Ó8Ó9Ñ100Ó1Ó2Ó3Ó4Ó5
Ó6Ó7Ó8Ó9Ò10Ó1Ó2Ó3Ó4Ó5Ó6Ó7Ó8Ó9Ò20Ó1Ó2Ó3Ó4Ó5Ó6Ó7Ó8Ó9Ò30Ó1Ó2Ó3Ó4Ó5Ó6Ó7Ó8Ó9Ò40Ó1Ó2Ó3Ó4Ó5Ó6Ó7Ó8Ó9Ò50Ó1
Ó2Ó3Ó4Ó5Ó6Ó7Ó8Ó9Ò60Ó1Ó2Ó3Ó4Ó5Ó6Ó7Ó8Ó9Ò70Ó1Ó2Ó3Ó4Ó5Ó6Ó7Ó8Ó9Ò80Ó1Ó2Ó3Ó4Ó5Ó6Ó7Ó8Ó9Ò90Ó1Ó2Ó3Ó4Ó5Ó6Ó7Ó8
Ó9Ñ200Ó1Ó2Ó3Ó4Ó5Ó6Ó7Ó8Ó9Ò10Ó1Ó2Ó3Ó4Ó5Ó6Ó7Ó8Ó9Ò20Ó1Ó2Ó3Ó4Ó5Ó6Ó7Ó8Ó9Ò30Ó1Ó2Ó3Ó4Ó5Ó6Ó7Ó8Ó9Ò40Ó1Ó2Ó3Ó4
Ó5Ó6Ó7Ó8Ó9Ò50Ó1Ó2Ó3Ó4Ó5Ó6Ó7Ó8Ó9Ò60Ó1Ó2Ó3Ó4Ó5Ó6Ó7Ó8Ó9Ò70Ó1Ó2Ó3Ó4Ó5Ó6Ó7Ó8Ó9Ò80Ó1Ó2Ó3Ó4Ó5Ó6Ó7Ó8Ó9Ò90
Ó1Ó2Ó3Ó4Ó5Ó6Ó7Ó8Ó9Ñ300Ó1Ó2Ó3Ó4Ó5Ó6Ó7Ó8Ó9Ò10Ó1Ó2Ó3Ó4Ó5Ó6Ó7Ó8Ó9Ò20Ó1Ó2Ó3Ó4Ó5Ó6Ó7Ó8Ó9Ò30Ó1Ó2Ó3Ó4Ó5Ó6
Ó7Ó8Ó9Ò40Ó1Ó2Ó3Ó4Ó5Ó6Ó7Ó8Ó9Ò50Ó1Ó2Ó3Ó4Ó5Ó6Ó7Ó8Ó9Ò60Ó1Ó2Ó3Ó4Ó5Ó6Ó7Ó8Ó9Ò70Ó1Ó2Ó3Ó4Ó5Ó6Ó7Ó8Ó9Ò80Ó1Ó2
Ó3Ó4Ó5Ó6Ó7Ó8Ó9Ò90Ó1Ó2Ó3Ó4Ó5Ó6Ó7Ó8Ó9Ñ400Ó1Ó2Ó3Ó4Ó5Ó6Ó7Ó8Ó9Ò10Ó1Ó2Ó3Ó4Ó5Ó6Ó7Ó8Ó9Ò20Ó1Ó2Ó3Ó4Ó5Ó6Ó7Ó8
Ó9Ò30Ó1Ó2Ó3Ó4Ó5Ó6Ó7Ó8Ó9Ò40Ó1Ó2Ó3Ó4Ó5Ó6Ó7Ó8Ó9Ò50Ó1Ó2Ó3Ó4Ó5Ó6Ó7Ó8Ó9Ò60Ó1Ó2Ó3Ó4Ó5Ó6Ó7Ó8Ó9Ò70Ó1Ó2Ó3Ó4
Ó5Ó6Ó7Ó8Ó9Ò80Ó1Ó2Ó3Ó4Ó5Ó6Ó7Ó8Ó9Ò90Ó1Ó2Ó3Ó4Ó5Ó6Ó7Ó8Ó9Ñ500Ó1Ó2Ó3Ó4Ó5Ó6Ó7Ó8Ó9Ò10Ó1Ó2Ó3Ó4Ó5Ó6Ó7Ó8Ó9Ò20
Ó1Ó2Ó3Ó4Ó5Ó6Ó7Ó8Ó9Ò30Ó1Ó2Ó3Ó4Ó5Ó6Ó7Ó8Ó9Ò40Ó1Ó2Ó3Ó4Ó5Ó6Ó7Ó8Ó9Ò50Ó1Ó2Ó3Ó4Ó5Ó6Ó7Ó8Ó9Ò60Ó1Ó2Ó3Ó4Ó5Ó6Ó7
Ó8Ó9Ò70Ó1Ó2Ó3Ó4Ó5Ó6Ó7Ó8Ó9Ò80Ó1Ó2Ó3Ó4Ó5Ó6Ó7Ó8Ó9Ò90Ó1Ó2Ó3Ó4Ó5Ó6Ó7Ó8Ó9Ñ600Ó1Ó2Ó3Ó4Ó5Ó6Ó7Ó8Ó9Ò10Ó1Ó2Ó3
Ó4Ó5Ó6Ó7Ó8Ó9Ò20Ó1Ó2Ó3Ó4Ó5Ó6Ó7Ó8Ó9Ò30Ó1Ó2Ó3Ó4Ó5Ó6Ó7Ó8Ó9Ò40Ó1Ó2Ó3Ó4Ó5Ó6Ó7Ó8Ó9Ò50Ó1Ó2Ó3Ó4Ó5Ó6Ó7Ó8Ó9
Ò60Ó1Ó2Ó3Ó4Ó5Ó6Ó7Ó8Ó9Ò70Ó1Ó2Ó3Ó4Ó5Ó6Ó7Ó8Ó9Ò80Ó1Ó2Ó3Ó4Ó5Ó6Ó7Ó8Ó9Ò90Ó1Ó2Ó3Ó4Ó5Ó6Ó7Ó8Ó9Ñ700Ó1Ó2Ó3Ó4Ó5
Ó6Ó7Ó8Ó9Ò10Ó1Ó2Ó3Ó4Ó5Ó6Ó7Ó8Ó9Ò20Ó1Ó2Ó3Ó4Ó5Ó6Ó7Ó8Ó9Ò30Ó1Ó2Ó3Ó4Ó5Ó6Ó7Ó8Ó9Ò40Ó1Ó2Ó3Ó4Ó5Ó6Ó7Ó8Ó9Ò50Ó1
Ó2Ó3Ó4Ó5Ó6Ó7Ó8Ó9Ò60Ó1Ó2Ó3Ó4Ó5Ó6Ó7Ó8=1aff0ÀKATAKANAbMINNAN TONE-2Ü3Ü4Ü5=1aff5Ü7Ü8×NASALIZED TONE-1
æ2æ3æ4æ5=1affdæ7æ8=1b000ÐARCHAIC EÀHIRAGANAbARCHAIC YEÁENTAIGANAbA-1Ô2Ô3ÔWOÒI-1Ô2Ô3Ô4ÒU-1Ô2Ô3Ô4Ô5
ÒE-2Ô3Ô4Ô5Ô6ÒO-1Ô2Ô3ÒKA-1Õ2Õ3Õ4Õ5Õ6Õ7Õ8Õ9Õ10Ö1ÕKEÓI-1Õ2Õ3Õ4Õ5Õ6Õ7Õ8ÓU-1Õ2Õ3Õ4Õ5Õ6Õ7ÓE-1Õ2Õ3Õ4Õ5Õ6
ÓO-1Õ2Õ3ÕKIÒSA-1Õ2Õ3Õ4Õ5Õ6Õ7Õ8ÓI-1Õ2Õ3Õ4Õ5Õ6ÓU-1Õ2Õ3Õ4Õ5Õ6Õ7Õ8ÓE-1Õ2Õ3Õ4Õ5ÓO-1Õ2Õ3Õ4Õ5Õ6Õ7ÒTA-1Õ2
Õ3Õ4ÓI-1Õ2Õ3Õ4Õ5Õ6Õ7ÓU-1Õ2Õ3Õ4ÕTOÓE-1Õ2Õ3Õ4Õ5Õ6Õ7Õ8Õ9ÓO-1Õ2Õ3Õ4Õ5Õ6ÕRAÒNA-1Õ2Õ3Õ4Õ5Õ6Õ7Õ8Õ9ÓI-1Õ2
Õ3Õ4Õ5Õ6Õ7ÕTEÓU-1Õ2Õ3ÓE-1Õ2Õ3Õ4Õ5Õ6ÕKOÓO-1Õ2Õ3Õ4Õ5ÒHA-1Õ2Õ3Õ4Õ5Õ6Õ7Õ8Õ9Õ10Ö1ÓI-1Õ2Õ3Õ4Õ5Õ6Õ7ÓU-1Õ2
Õ3ÓE-1Õ2Õ3Õ4Õ5Õ6Õ7ÓO-1Õ2Õ3Õ4Õ5Õ6Õ7Õ8ÒMA-1Õ2Õ3Õ4Õ5Õ6Õ7ÓI-1Õ2Õ3Õ4Õ5Õ6Õ7ÓU-1Õ2Õ3Õ4ÓE-1Õ2ÕMAÓO-1Õ2Õ3Õ4
Õ5Õ6ÒYA-1Õ2Õ3Õ4Õ5ÕYOÓU-1Õ2Õ3Õ4ÓO-1Õ2Õ3Õ4Õ5Õ6ÒRA-1Õ2Õ3Õ4ÓI-1Õ2Õ3Õ4Õ5Õ6Õ7ÓU-1Õ2Õ3Õ4Õ5Õ6ÓE-1Õ2Õ3Õ4
ÓO-1Õ2Õ3Õ4Õ5Õ6ÒWA-1Õ2Õ3Õ4Õ5ÓI-1Õ2Õ3Õ4Õ5ÓE-1Õ2Õ3Õ4ÓO-1Õ2Õ3Õ4Õ5Õ6Õ7ÒN-MU-MO-1Ú2ÁIRAGANAbARCHAIC WU
ÀKATAKANAbARCHAIC YIÙEØWU=1b150ÀHIRAGANAbd WI×E×O=1b164ÀKATAKANAbd WI×E×OÖN=1bc00ÀDUPLOYANbHÐXÐPÐT
ÐFÐKÐLÐBÐDÐVÐGÐRÐP NÐD SÐF NÐK MÐR SÐTHÐSLOAN DHÐDHÐKKÐSLOAN JÐHLÐLHÐRHÐMÐNÐJÐSÐM NÐN MÐJ MÐS J
ÐMaDOTÐNaDOTÐJaDOTÚS INSIDEfABOVEÐSaDOTÚoÐM SÐN SÐJ SÐS SÐM N SÐN M SÐJ M SÐS J SÐJ SaDOTÒNÓ SÐS T
Ó RÒPÓ RÐT SÒR SÐWÑHÑ RÐS NÒMÐK R SÐG R SÐS KÓ RÐAÐSLOAN OWÐOAÑÐAOUÐIÐEÐIEÐSHORT IÐUIÐEEÐSLOAN EH
ÐROMANIAN IÐSLOAN EEÐLONG IÐYEÐUÐEUÐXWÐU NÐLONG UÐROMANIAN UÐUHÐSLOAN UÐOOHÑWÑUÐWAÑOÑIÑEIÑOW
ÐNASAL UÖOÖIÖAÐPERNIN ANØMÐSLOAN ENÖANÖONÐVOCALIC M=1bc70ÉAFFIX pHORIZONTAL SECANT
ÏMID HORIZONTAL SECANTÏm HORIZONTAL SECANTÏLOW t SECANTÏMID t SECANTÏHIGH t SECANTÏATTACHED SECANT
ØLEFT-TO-m SECANTØTANGENTÚILØE HOOKØI HOOKØTANGENT HOOK=1bc80ÏHIGH ACUTEÔTIGHT ACUTEÔGRAVE
ÔLONG GRAVEÔDOTÔCIRCLEÔLINEÔWAVEÔt=1bc90ÏLOW ACUTEÓTIGHT ACUTEÓGRAVEÓLONG GRAVEÓDOTÓCIRCLEÓLINE
ÓWAVEÓtÓg=1bc9cÉk OaCROSSÉTHICKbSELECTORÉnMARKÉPUNCTUATION CHINOOK FULL STOP
ÀSHORTHAND FORMATbOVERLAPÑCONTINUING OVERLAPÑDOWN STEPÑUP STEP
=1cf00ÀZNAMENNY COMBINING MARK GORAZDO NIZKO S KRYZHEM ON LEFTØNIZKO S KRYZHEM ON LEFT
ØTSATA ON LEFTØGORAZDO NIZKO ON LEFTØNIZKO ON LEFTØSREDNE ON LEFTØMALO POVYSHE ON LEFT
ØPOVYSHE ON LEFTØVYSOKO ON LEFTØMALO POVYSHE S KHOKHLOM ON LEFTØPOVYSHE S KHOKHLOM ON LEFT
ØVYSOKO S KHOKHLOM ON LEFTØGORAZDO NIZKO S KRYZHEM ON mØNIZKO S KRYZHEM ON mØTSATA ON m
ØGORAZDO NIZKO ON mØNIZKO ON mØSREDNE ON mØMALO POVYSHE ON mØPOVYSHE ON mØVYSOKO ON m
ØMALO POVYSHE S KHOKHLOM ON mØPOVYSHE S KHOKHLOM ON mØVYSOKO S KHOKHLOM ON mØTSATA S KRYZHEM
ØMALO POVYSHE S KRYZHEMØSTRANNO MALO POVYSHEØPOVYSHE S KRYZHEMáTRANNOØVYSOKO S KRYZHEM
ØMALO POVYSHE STRANNOØGORAZDO VYSOKOØZELOØONØRAVNOØTIKHAYAØBORZAYAØUDARKAØPODVERTKAØLOMKAØKUPNAYA
ÙACHKAØZEVOKØSKOBAØRAZSEKAØKRYZH ON LEFT=1cf30ÓTONAL RANGE MARK MRACHNOäSVETLOäTRESVETLO
ÓMARK ZADERZHKAØDEMESTVENNY ZADERZHKAØOTSECHKAØPODCHASHIEâat wØCHASHKAß POLNAYAØOBLACHKO
ØSOROCHYA NOZHKAØTOCHKAØDVOETOCHIEÓATTACHING t OMETÓMARK CURVED OMETØKRYZH
ÓLOWER TONAL RANGE INDICATORÉPRIZNAK MODIFIER LEVEL-2à3ÚDIRECTION FLIPÚKRYZHÚROG=1cf50ÉNEUME KRYUK
Ô TIKHYÏPARAKLITÏDVA V CHELNUÏKLYUCHÏZANOZHEKÏSTOPITSA× S OCHKOMÏPEREVODKAØ NEPOSTOYANNAYA
ÏSTOPITSAaSOROCHYA NOZHKAÏCHELYUSTKAÏPALKAÏZAPYATAYAÏGOLUBCHIK BORZYÙTIKHYÙMRACHNYÙSVETLY
ÙTRESVETLYÏVRAKHIYA PROSTAYAØMRACHNAYAØSVETLAYAØTRESVETLAYAØKLYUCHEVAYA PROSTAYAäMRACHNAYA
äSVETLAYAäTRESVETLAYAÏnZAPYATAYAÏREVERSED CHELYUSTKAÏDERBITSAÏKHAMILOÏCHASHKAÏPODCHASHIE
ÏSKAMEYTSA MRACHNAYAÙSVETLAYAÙTRESVETLAYAÚIKHAYAÏDEMESTVENNY KLYUCHÏSKAMEYTSA KLYUCHEVAYA SVETLAYA
àNEPOSTOYANNAYAàVAYA TIKHAYAÙDVOECHELNAYA PROSTAYAæSVETLAYAæNEPOSTOYANNAYAæKLYUCHEVAYAÐLOZHITIE
Ø S ZAPYATOYÙZAKRYTOEÙS KRYZHEMÏKRYZHÏROGÏFITAÏKOBYLAÏZMEYTSAÏSTATYAÕ S ZAPYATOYØKRYZHEM
ØZAPYATOY I KRYZHEMØKRYZHEM I ZAPYATOYÖZAKRYTAYAß S ZAPYATOYÖS ROGOMØDVUMYA ZAPYATYMI
ØZAPYATOY I PODCHASHIEMÏPOLKULIZMYÏSTATYA NEPOSTOYANNAYAÑRELA PROSTAYAÖMRACHNOTIKHAYAÖKRYZHEVAYA
ÖPOLUPOVODNAYAØVODNAYAÖNEPOSTOYANNAYAÖKLYUCHEPOVODNAYAÝNEPOSTOYANNAYAÖTIKHAYA PUTNAYAÖDVOECHELNAYA
ßOKRYZHEVAYAàPOVODNAYAßAYA KLYUCHEVAYAßOPOVODNAYA KLYUCHEVAYAÖGROMNAYAaSINGLE ZAPYATAYA
ÚOPOVODNAYAaSINGLE ZAPYATAYAÚNAYAÚOPOVODNAYAäanZAPYATAYAÛKRYZHEVAYAå POVODNAYAÏMECHIKÕ POVODNY
ÖKLYUCHEVOYÝPOVODNYÝNEPOSTOYANNYÏSTRELA TRYASOGLASNAYAÜPOVODNAYAÜSTRELNAYAÏOSOKAÔ SVETLAYA
ÕTRESVETLAYAÕKRYUKOVAYA SVETLAYAÖLYUCHEVAYA SVETLAYAáNEPOSTOYANNAYAÏSTRELA KRYUKOVAYAà POVODNAYA
áGROMNAYAaSINGLE ZAPYATAYAåOPOVODNAYAaSINGLE ZAPYATAYAåNAYAåOPOVODNAYAïanZAPYATAYAæKRYZHEVAYA
ð POVODNAYAáTRYASKAÏKUFISMAÏOBLAKOÏDUDAÏNEMKAÏPAUK=1d000ÀBYZANTINE MUSICAL z PSILIÙDASEIA
ÙPERISPOMENIÙOXEIA EKFONITIKONßDIPLIÙVAREIA EKFONITIKONàDIPLIÙKATHISTIÙSYRMATIKIÙPARAKLITIKI
ÙYPOKRISISâ DIPLIÙKREMASTIÙAPESO EKFONITIKONÙEXO EKFONITIKONÙTELEIAÙKENTIMATAÙAPOSTROFOSã DIPLI
ÙSYNEVMAÙTHITAÙOLIGON ARCHAIONÙGORGON ARCHAIONÙPSILONÙCHAMILONÙVATHYÙISON ARCHAION
ÙKENTIMA ARCHAIONàTA ARCHAIONÙSAXIMATAÙPARICHONÙSTAVROS APODEXIAÙOXEIAI ARCHAIONÙVAREIAI ARCHAION
ÙAPODERMA ARCHAIONÜTHEMAÙKLASMAÙREVMAÙPIASMA ARCHAIONÙTINAGMAÙANATRICHISMAÙSEISMAÚYNAGMA ARCHAION
áMETA STAVROUÙOYRANISMA ARCHAIONÙTHEMAÙLEMOIÙDYOÙTRIAÚESSERAÙKRATIMATAÙAPESO EXO NEO
ÙFTHORA ARCHAIONÙIMIFTHORAÙTROMIKON ARCHAIONÙKATAVA TROMIKONÙPELASTONÚSIFISTONÙKONTEVMA
ÙCHOREVMA ARCHAIONÙRAPISMAÙPARAKALESMA ARCHAIONÞLITIKI ARCHAIONÙICHADINÙNANAÙPETASMAÙKONTEVMA ALLO
ÙTROMIKON ALLOÙSTRAGGISMATAÙGRONTHISMATAÙISON NEOÙOLIGON NEOÚXEIA NEOÙPETASTIÙKOUFISMA
ÙPETASTOKOUFISMAÙKRATIMOKOUFISMAÙPELASTON NEOÙKENTIMATA NEO ANOà NEO ANOÙYPSILIÙAPOSTROFOS NEO
âI SYNDESMOS NEOÙYPORROIÙKRATIMOYPORROONÙELAFRONÙCHAMILIÙMIKRON ISONÙVAREIA NEOÙPIASMA NEO
ÚSIFISTON NEOÙOMALONÙANTIKENOMAÙLYGISMAÙPARAKLITIKI NEOÞALESMA NEOÙETERON PARAKALESMAÙKYLISMA
ÙANTIKENOKYLISMAÙTROMIKON NEOÙEKSTREPTONÙSYNAGMA NEOÛRMAÙCHOREVMA NEOÙEPEGERMAÙSEISMA NEO
ÙXIRON KLASMAÙTROMIKOPSIFISTONÙPSIFISTOLYGISMAÙTROMIKOLYGISMAàPARAKALESMAÙPSIFISTOPARAKALESMA
ÙTROMIKOSYNAGMAÙPSIFISTOSYNAGMAÙGORGOSYNTHETONÙARGOSYNTHETONÙETERON ARGOSYNTHETONÙOYRANISMA NEO
ÙTHEMATISMOS ESOæXOÞ APLOUNÜS KAI APOTHESÙKATAVASMAÙENDOFONONÙYFEN KATOÞANOÙSTAVROSÙKLASMA ANO
ÙDIPLI ARCHAIONÙKRATIMA ARCHAIONâLLOáNEOÙAPODERMA NEOÛLIÙDIPLIÙTRIPLIÚETRAPLIÙKORONIS
ÙLEIMMA ENOS CHRONOUàDYO CHRONONàTRION CHRONONáESSARON CHRONONàIMISEOS CHRONOUÙGORGON NEO ANO
àPARESTIGMENON ARISTERAîDEXIAÙDIGORGONá PARESTIGMENON ARISTERA KATOùANOðDEXIAÙTRIGORGONÙARGON
ÙIMIDIARGONÙDIARGONÙAGOGI POLI ARGIßARGOTERIâIßMETRIAáSIßGORGIãOTERIßPOLI GORGI
ÙMARTYRIA PROTOS ICHOSâALLI PROTOS ICHOSâDEYTEROS ICHOSâALLI DEYTEROS ICHOSâTRITOS ICHOSåFONIAS
ãETARTOS ICHOSëLEGETOS ICHOSâLEGETOS ICHOSâPLAGIOS ICHOSÙISAKIA TELOUS ICHIMATOS
ÙAPOSTROFOI TELOUS ICHIMATOSÙFANEROSIS TETRAFONIASãMONOFONIASãDIFONIASÙMARTYRIA VARYS ICHOS
âPROTOVARYS ICHOSãLAGIOS TETARTOS ICHOSÙGORTHMIKON N APLOUNæDIPLOUNÙENARXIS KAI FTHORA VOU
ÙIMIFONONÝTHORONÙFTHORA ARCHAION DEYTEROU ICHOUàDIATONIKI PAêNANAàNAOS ICHOSàDIATONIKI DI
àSKLIRON DIATONON DIàDIATONIKI KEêZOêNI KATOíANOàMALAKON CHROMA DIFONIASïMONOFONIAS
ÚHTORA SKLIRON CHROMA VASISÚTHORA SKLIRON CHROMA SYNAFIàNENANOÙCHROA ZYGOSßKLITONßSPATHI
ÙFTHORA I YFESIS TETARTIMORIONàENARMONIOS ANTIFONIAÙYFESIS TRITIMORIONÙDIESIS TRITIMORION
áETARTIMORIONàAPLI DYO DODEKATAàMONOGRAMMOS TESSERA DODEKATAàDIGRAMMOS EX DODEKATA
àTRIGRAMMOS OKTO DODEKATAÙYFESIS APLI DYO DODEKATAàMONOGRAMMOS TESSERA DODEKATA
àDIGRAMMOS EX DODEKATAàTRIGRAMMOS OKTO DODEKATAÙGENIKI DIESISàYFESISÙDIASTOLI APLI MIKRIèEGALI
âDIPLIâTHESEOSÙSIMANSIS THESEOSé DISIMOUêTRISIMOUëETRASIMOUâARSEOSè DISIMOUéTRISIMOUêETRASIMOU
ÙDIGRAMMA GGÛFTOGGOS OUÙSTIGMAÙARKTIKO PAáVOUáGAáDIáKEáZOáNIÙKENTIMATA NEO MESOà NEO MESO
àTA NEO KATOà NEO KATOÚLASMA KATOÙGORGON NEO KATO=1d100ÀMUSICAL z SINGLE BARLINEÏnBARLINE
ÏFINAL BARLINEÏREVERSE FINAL BARLINEÏDASHED BARLINEÏSHORT BARLINEÏpREPEAT kÏm REPEAT kÐEPEAT DOTS
ÏDAL SEGNOÑ CAPOÏSEGNOÏCODAÏREPEATED FIGURE-1ß2ß3ÏFERMATAÖoÏBREATH MARKÏCAESURAÏBRACEÓKET
ÏONE-LINE STAFFÏTWO-LINE STAFFÐHREE-LINE STAFFÏFOUR-LINE STAFFÐIVE-LINE STAFFÏSIX-LINE STAFF
ÓSTRING FRETBOARDÏFOUR-STRING FRETBOARDÏG CLEFÕ OTTAVA ALTAÝBASSAÏC CLEFÏF CLEFÕ OTTAVA ALTAÝBASSA
ÏDRUM CLEF-1Ù2=1d129ÏMULTIPLE MEASURE RESTÏnSHARPÖFLATÏFLAT UPÔDOWNÏNATURAL UP×DOWNÏSHARP UPÕDOWN
ÏQUARTER TONE SHARPÜFLATÏCOMMON TIMEÐUT TIMEÏOTTAVA ALTAÖBASSAÏQUINDICESIMA ALTAÜBASSAÏMULTI REST
ÏWHOLE RESTÏHALF RESTÏQUARTER RESTÏEIGHTH RESTÏSIXTEENTH RESTÏTHIRTY-SECOND RESTÏSIXTY-FOURTH REST
ÏONE HUNDRED TWENTY-EIGHTH RESTÏX NOTEHEADÏPLUS NOTEHEADÏCIRCLE X NOTEHEADÏSQUARE NOTEHEAD WHITE
ßBLACKÏTRIANGLE NOTEHEAD UP WHITEäBLACKápWHITEæBLACKám WHITEçBLACKáDOWN WHITEæBLACKáUP m WHITE
êBLACKÏMOON NOTEHEAD WHITEÝBLACKÏTRIANGLE-ROUND NOTEHEAD DOWN WHITEìBLACKÏPARENTHESIS NOTEHEAD
ÏVOID NOTEHEADÏNOTEHEAD BLACKÐULL NOTEHEADÏCLUSTER NOTEHEAD WHITEàBLACKÏBREVEÏWHOLE NOTEÏHALF NOTE
ÏQUARTER NOTEÏEIGHTH NOTEÏSIXTEENTH NOTEÏTHIRTY-SECOND NOTEÏSIXTY-FOURTH NOTE
ÏONE HUNDRED TWENTY-EIGHTH NOTEÏCOMBINING STEMÚPRECHGESANG STEMÙTREMOLO-1á2á3ÏFINGERED TREMOLO-1à2
à3ÏCOMBINING AUGMENTATION DOTÙFLAG-1Þ2Þ3Þ4Þ5ÏBEGIN BEAMÏEND BEAMÏBEGIN TIEÏEND TIEÏBEGIN SLUR
ÏEND SLURÏBEGIN PHRASEÏEND PHRASEÏCOMBINING ACCENTÙSTACCATOÙTENUTOÙSTACCATISSIMOÙMARCATOà-STACCATO
ÙACCENT-STACCATOÙLOUREÏARPEGGIATO UPÚDOWNÏCOMBINING DOITÙRIPÙFLIPÙSMEARÙBENDÙnTONGUEÙTRIPLE TONGUE
ÏRINFORZANDOÏSUBITOÏZÏPIANOÏMEZZOÏFORTEÏCRESCENDOÏDECRESCENDOÏGRACE NOTE SLASHÚNO SLASHÏTRÐURN
ÏINVERTED TURNÏTURN SLASHÔUPÏORNAMENT w-1ß2ß3ß4ß5ß6ß7ß8ß9ß10à1ÏHAUPTSTIMMEÏNEBENSTIMME
ÏEND OF STIMMEÏDEGREE SLASHÏCOMBINING DOWN BOWÙUP BOWÙHARMONICÙSNAP PIZZICATOÏPEDAL MARKÕUP MARK
ÏHALF PEDAL MARKÏGLISSANDO UPÙDOWNÏWITH FINGERNAILSÏDAMPÓ ALLÏMAXIMAÏLONGAÏBREVISÏSEMIBREVIS WHITE
ÚBLACKÏMINIMAÕ BLACKÏSEMIMINIMA WHITEÚBLACKÏFUSA WHITEÔBLACKÏLONGA PERFECTA RESTÕIMPERFECTA REST
ÏBREVIS RESTÏSEMIBREVIS RESTÏMINIMA RESTÏSEMIMINIMA RESTÏTEMPUS PERFECTUM CUM PROLATIONE PERFECTA
ïIMPERFECTAïPERFECTA DIMINUTION-1ÖIMPERFECTUM CUM PROLATIONE PERFECTAñIMPERFECTAû DIMINUTION-1ć2ć3
ÏCROIXÏGREGORIAN C CLEFÙF CLEFÏSQUARE BÏVIRGAÏPODATUSÏCLIVISÏSCANDICUSÏCLIMACUSÏTORCULUSÏPORRECTUS
Ø FLEXUSÏSCANDICUS FLEXUSÏTORCULUS RESUPINUSÏPES SUBPUNCTISÏKIEVAN C CLEFÖEND OF PIECEÖFINAL NOTE
ÖRECITATIVE MARKÖWHOLE NOTEÖHALF NOTEÖQUARTER NOTE STEM DOWNèUPÖEIGHTH NOTE STEM DOWNçUPÖFLAT k
ÏSORIÏKORON=1d200ÀGREEK VOCAL NOTATION z-1Ü2Ü3Ü4Ü5Ü6Ü7Ü8Ü9Ü10Ý1Ý2Ý3Ý4Ý5Ý6Ý7Ý8Ý9Ü20Ý1Ý2Ý3Ý4Ü50Ý1Ý2
Ý3Ý4ÆINSTRUMENTAL NOTATION z-1ã2ã4ã5ã7ã8ã11ä2ä3ä4ä7ä8ä9ã23ä4ä5ä6ä7ä9ã30ä2ä6ä7ä8ä9ã40ä2ä3ä5ä7ä8ä9
ã50ä1ä2ä3ä4ÀCOMBINING GREEK MUSICAL TRISEMEÙETRASEMEØPENTASEMEÀGREEK MUSICAL LEIMMA
=1d2e0ÀMAYAN NUMERAL ZEROÎONEÎTWOÏHREEÎFOURÏIVEÎSIXÏEVENÎEIGHTÎNINEÎTENÎELEVENÎTWELVEÏHIRTEEN
ÎFOURTEENÏIFTEENÎSIXTEENÏEVENTEENÎEIGHTEENÎNINETEEN=1d300ÁONOGRAM FOR EARTH
ÀDIGRAM FOR HEAVENLY EARTHÌUMAN EARTHËEARTHLY HEAVENÔUMANÐÀTETRAGRAM FOR CENTREÎFULL CIRCLEÎMIRED
ÎBARRIERÎKEEPING dÎCONTRARIETYÎASCENTÎOPPOSITIONÎBRANCHING OUTÎDEFECTIVENESS OR DISTORTION
ÏIVERGENCEÎYOUTHFULNESSÎINCREASEÎPENETRATIONÎREACHÎCONTACTÎHOLDING BACKÎWAITINGÎFOLLOWINGÎADVANCE
ÎRELEASEÐSISTANCEÎEASEÎJOYÎCONTENTIONÎENDEAVOURÎDUTIESÎCHANGEÎDECISIVENESSÎBOLD RESOLUTIONÎPACKING
ÎLEGIONÎCLOSENESSÎKINSHIPÎGATHERINGÎSTRENGTHÎPURITYÎFULLNESSÎRESIDENCEÎLAW OR MODELÎRESPONSE
ÎGOING TO MEETÎENCOUNTERSÎSTOVEÎGREATNESSÎENLARGEMENTÎPATTERNÎRITUALÎFLIGHTÎVASTNESS OR WASTING
ÎCONSTANCYÎMEASUREÎETERNITYÎUNITYÎDIMINISHMENTÎCLOSED MOUTHÎGUARDEDNESSÏATHERING INÎMASSING
ÎACCUMULATIONÎEMBELLISHMENTÎDOUBTÎWATCHÎSINKINGÎINNERÎDEPARTUREÏARKENINGÏIMMINGÎEXHAUSTION
ÎSEVERANCEÏTOPPAGEÎHARDNESSÎCOMPLETIONÏLOSUREÎFAILUREÎAGGRAVATIONÎCOMPLIANCEÎON THE VERGE
ÎDIFFICULTIESÎLABOURINGÎFOSTERING=1d360ÀCOUNTING ROD UNIT DIGIT ONEØTWOÙHREEØFOURÙIVEØSIXÙEVEN
ØEIGHTØNINEÍTENS DIGIT ONEØTWOÙHREEØFOURÙIVEØSIXÙEVENØEIGHTØNINEÀIDEOGRAPHIC TALLY MARK ONE×TWO
ØHREE×FOURØIVEÀTALLY MARK ONEËFIVE=1d400ÀMATHEMATICAL BOLD c AÚBÚCÚDÚEÚFÚGÚHÚIÚJÚKÚLÚMÚNÚOÚPÚQÚRÚS
ÚTÚUÚVÚWÚXÚYÚZÒd AØBØCØDØEØFØGØHØIØJØKØLØMØNØOØPØQØRØSØTØUØVØWØXØYØZÍITALIC c AÜBÜCÜDÜEÜFÜGÜHÜIÜJ
ÜKÜLÜMÜNÜOÜPÜQÜRÜSÜTÜUÜVÜWÜXÜYÜZÔd AÚBÚCÚDÚEÚFÚG=1d456ÚIÚJÚKÚLÚMÚNÚOÚPÚQÚRÚSÚTÚUÚVÚWÚXÚYÚZ
ÍBOLD ITALIC c AáBáCáDáEáFáGáHáIáJáKáLáMáNáOáPáQáRáSáTáUáVáWáXáYáZÙd AßBßCßDßEßFßGßHßIßJßKßLßMßNßO
ßPßQßRßSßTßUßVßWßXßYßZÍSCRIPT c A=1d49eÜCÜD=1d4a2ÜG=1d4a5ÜJÜK=1d4a9ÜNÜOÜPÜQ=1d4aeÜSÜTÜUÜVÜWÜXÜYÜZ
Ôd AÚBÚCÚD=1d4bbÚF=1d4bdÚHÚIÚJÚKÚLÚMÚN=1d4c5ÚPÚQÚRÚSÚTÚUÚVÚWÚXÚYÚZÍBOLD SCRIPT c AáBáCáDáEáFáGáHáI
áJáKáLáMáNáOáPáQáRáSáTáUáVáWáXáYáZÙd AßBßCßDßEßFßGßHßIßJßKßLßMßNßOßPßQßRßSßTßUßVßWßXßYßZ
ÍFRAKTUR c AÝB=1d507ÝDÝEÝFÝG=1d50dÝJÝKÝLÝMÝNÝOÝPÝQ=1d516ÝSÝTÝUÝVÝWÝXÝY=1d51eÕd AÛBÛCÛDÛEÛFÛGÛHÛIÛJ
ÛKÛLÛMÛNÛOÛPÛQÛRÛSÛTÛUÛVÛWÛXÛYÛZÍDOUBLE-STRUCK c AãB=1d53bãDãEãFãG=1d540ãIãJãKãLãM=1d546ãO=1d54aãS
ãTãUãVãWãXãY=1d552Ûd AáBáCáDáEáFáGáHáIáJáKáLáMáNáOáPáQáRáSáTáUáVáWáXáYáZÍBOLD FRAKTUR c AâBâCâDâE
âFâGâHâIâJâKâLâMâNâOâPâQâRâSâTâUâVâWâXâYâZÚd AàBàCàDàEàFàGàHàIàJàKàLàMàNàOàPàQàRàSàTàUàVàWàXàYàZ
ÍSANS-SERIF c AàBàCàDàEàFàGàHàIàJàKàLàMàNàOàPàQàRàSàTàUàVàWàXàYàZØd AÞBÞCÞDÞEÞFÞGÞHÞIÞJÞKÞLÞMÞNÞO
ÞPÞQÞRÞSÞTÞUÞVÞWÞXÞYÞZØBOLD c AåBåCåDåEåFåGåHåIåJåKåLåMåNåOåPåQåRåSåTåUåVåWåXåYåZÝd AãBãCãDãEãFãG
ãHãIãJãKãLãMãNãOãPãQãRãSãTãUãVãWãXãYãZØITALIC c AçBçCçDçEçFçGçHçIçJçKçLçMçNçOçPçQçRçSçTçUçVçWçXçY
çZßd AåBåCåDåEåFåGåHåIåJåKåLåMåNåOåPåQåRåSåTåUåVåWåXåYåZØBOLD ITALIC c AìBìCìDìEìFìGìHìIìJìKìLìMìN
ìOìPìQìRìSìTìUìVìWìXìYìZäd AêBêCêDêEêFêGêHêIêJêKêLêMêNêOêPêQêRêSêTêUêVêWêXêYêZÍMONOSPACE c AßBßCßD
ßEßFßGßHßIßJßKßLßMßNßOßPßQßRßSßTßUßVßWßXßYßZ×d AÝBÝCÝDÝEÝFÝGÝHÝIÝJÝKÝLÝMÝNÝOÝPÝQÝRÝSÝTÝUÝVÝWÝXÝYÝZ
ÍITALIC d DOTLESS IâJ=1d6a8ÍBOLD c ALPHAÚBETAÚGAMMAÚDELTAÚEPSILONÚZETAÚETAÚTHETAÚIOTAÚKAPPAÚLAMDA
ÚMUÚNUÚXIÚOMICRONÚPIÚRHOÚTHETA zÚSIGMAÚTAUÚUPSILONÚPHIÚCHIÚPSIÚOMEGAÒNABLAÒd ALPHAØBETAØGAMMA
ØDELTAØEPSILONØZETAØETAØTHETAØIOTAØKAPPAØLAMDAØMUØNUØXIØOMICRONØPIØRHOØFINAL SIGMAØSIGMAØTAU
ØUPSILONØPHIØCHIØPSIØOMEGAÒPARTIAL DIFFERENTIALÒEPSILON zÒTHETA zÒKAPPA zÒPHI zÒRHO zÒPI z
ÍITALIC c ALPHAÜBETAÜGAMMAÜDELTAÜEPSILONÜZETAÜETAÜTHETAÜIOTAÜKAPPAÜLAMDAÜMUÜNUÜXIÜOMICRONÜPIÜRHO
ÜTHETA zÜSIGMAÜTAUÜUPSILONÜPHIÜCHIÜPSIÜOMEGAÔNABLAÔd ALPHAÚBETAÚGAMMAÚDELTAÚEPSILONÚZETAÚETAÚTHETA
ÚIOTAÚKAPPAÚLAMDAÚMUÚNUÚXIÚOMICRONÚPIÚRHOÚFINAL SIGMAÚSIGMAÚTAUÚUPSILONÚPHIÚCHIÚPSIÚOMEGA
ÔPARTIAL DIFFERENTIALÔEPSILON zÔTHETA zÔKAPPA zÔPHI zÔRHO zÔPI zÍBOLD ITALIC c ALPHAáBETAáGAMMA
áDELTAáEPSILONáZETAáETAáTHETAáIOTAáKAPPAáLAMDAáMUáNUáXIáOMICRONáPIáRHOáTHETA záSIGMAáTAUáUPSILON
áPHIáCHIáPSIáOMEGAÙNABLAÙd ALPHAßBETAßGAMMAßDELTAßEPSILONßZETAßETAßTHETAßIOTAßKAPPAßLAMDAßMUßNUßXI
ßOMICRONßPIßRHOßFINAL SIGMAßSIGMAßTAUßUPSILONßPHIßCHIßPSIßOMEGAÙPARTIAL DIFFERENTIALÙEPSILON z
ÙTHETA zÙKAPPA zÙPHI zÙRHO zÙPI zÍSANS-SERIF BOLD c ALPHAåBETAåGAMMAåDELTAåEPSILONåZETAåETAåTHETA
åIOTAåKAPPAåLAMDAåMUåNUåXIåOMICRONåPIåRHOåTHETA zåSIGMAåTAUåUPSILONåPHIåCHIåPSIåOMEGAÝNABLA
Ýd ALPHAãBETAãGAMMAãDELTAãEPSILONãZETAãETAãTHETAãIOTAãKAPPAãLAMDAãMUãNUãXIãOMICRONãPIãRHO
ãFINAL SIGMAãSIGMAãTAUãUPSILONãPHIãCHIãPSIãOMEGAÝPARTIAL DIFFERENTIALÝEPSILON zÝTHETA zÝKAPPA z
ÝPHI zÝRHO zÝPI zÝITALIC c ALPHAìBETAìGAMMAìDELTAìEPSILONìZETAìETAìTHETAìIOTAìKAPPAìLAMDAìMUìNUìXI
ìOMICRONìPIìRHOìTHETA zìSIGMAìTAUìUPSILONìPHIìCHIìPSIìOMEGAäNABLAäd ALPHAêBETAêGAMMAêDELTAêEPSILON
êZETAêETAêTHETAêIOTAêKAPPAêLAMDAêMUêNUêXIêOMICRONêPIêRHOêFINAL SIGMAêSIGMAêTAUêUPSILONêPHIêCHIêPSI
êOMEGAäPARTIAL DIFFERENTIALäEPSILON zäTHETA zäKAPPA zäPHI zäRHO zäPI zÍBOLD c DIGAMMAÒd DIGAMMA
=1d7ceÒDIGIT ZEROØONEØTWOÙHREEØFOURÙIVEØSIXÙEVENØEIGHTØNINEÍDOUBLE-STRUCK DIGIT ZEROáONEáTWOâHREE
áFOURâIVEáSIXâEVENáEIGHTáNINEÍSANS-SERIF DIGIT ZEROÞONEÞTWOßHREEÞFOURßIVEÞSIXßEVENÞEIGHTÞNINE
ØBOLD DIGIT ZEROãONEãTWOäHREEãFOURäIVEãSIXäEVENãEIGHTãNINEÍMONOSPACE DIGIT ZEROÝONEÝTWOÞHREEÝFOUR
ÞIVEÝSIXÞEVENÝEIGHTÝNINEÀkWRITING HAND-FIST INDEXÑCIRCLE INDEXÒUP INDEXÑOVAL INDEXÑHINGE INDEX
ÑANGLE INDEXÑFIST INDEX BENTÑCIRCLE INDEX BENTÑFIST THUMB UNDER INDEX BENTÖINDEX RAISED KNUCKLE
ÜCUPPEDÜHINGEDâ LOWÑCIRCLE INDEX HINGEÑFIST INDEX MIDDLEÑCIRCLE INDEX MIDDLE
ÑFIST INDEX MIDDLE BENTãRAISED KNUCKLESãHINGEDÜUP MIDDLE HINGEDÜHINGED MIDDLE UPÜMIDDLE CONJOINED
ì INDEX BENTíMIDDLE BENTíCUPPEDíHINGEDäROSSEDÑCIRCLE INDEX MIDDLE CROSSED
ÑFIST MIDDLE BENT OVER INDEXÖINDEX BENT OVER MIDDLEÜMIDDLE THUMBÑCIRCLE INDEX MIDDLE THUMB
ÑFIST INDEX MIDDLE STRAIGHT THUMB BENTãBENT THUMB STRAIGHTãTHUMB BENTãHINGED SPREAD THUMB SIDE
ÜUP MIDDLE HINGED THUMB SIDEóCONJOINEDÜHINGED MIDDLE UP THUMB SIDEÜMIDDLE UP SPREAD THUMB FORWARD
ãTHUMB CUPPEDêIRCLEDéHOOKEDêINGEDÖTHUMB BETWEEN INDEX MIDDLE STRAIGHT
ÖINDEX MIDDLE CONJOINED THUMB SIDE÷ CONJOINEDøBENTÖMIDDLE THUMB HOOKED INDEX UP
ÖINDEX THUMB HOOKED MIDDLE UPÜMIDDLE CONJOINED HINGED THUMB SIDEäROSSED THUMB SIDE
äONJOINED THUMB FORWARDíCUPPED THUMB FORWARDÖMIDDLE THUMB CUPPED INDEX UP
ÖINDEX THUMB CUPPED MIDDLE UPÖMIDDLE THUMB CIRCLED INDEX UPñHINGED
ÖINDEX THUMB ANGLED OUT MIDDLE UPéIN MIDDLE UPâCIRCLED MIDDLE UPÜMIDDLE THUMB CONJOINED HINGED
éANGLED OUTïÖMIDDLE THUMB ANGLED OUT INDEX UPôCROSSEDêINDEX UPÖINDEX THUMB HOOKED MIDDLE HINGED
ÒLAT FOUR FINGERSâ BENTãHINGEDãCONJOINEDì SPLITÑCLAW FOUR FINGERS CONJOINED
ÑFIST FOUR FINGERS CONJOINED BENTÑHINGE FOUR FINGERS CONJOINEDÑFLAT FIVE FINGERS SPREAD
ÖHEEL FIVE FINGERS SPREADÖFIVE FINGERS SPREAD FOUR BENTÖHEEL FIVE FINGERS SPREAD FOUR BENT
ÖFIVE FINGERS SPREAD BENTÖHEEL FIVE FINGERS SPREAD BENTÖFIVE FINGERS SPREAD THUMB FORWARD
ÑCUP FIVE FINGERS SPREADè OPENÑHINGE FIVE FINGERS SPREAD OPENÑOVAL FIVE FINGERS SPREAD
ÑFLAT FIVE FINGERS SPREAD HINGEDð THUMB SIDEñNO THUMBÕÕ BETWEEN PALM FACINGSÖHEELÖTHUMB SIDE
ÖHEEL THUMB SIDEÖTHUMB BENTÜFORWARDÖSPLIT INDEX THUMB SIDEÜCENTREâ THUMB SIDEí BENTÜLITTLEÑCLAW
Õ THUMB SIDEÖNO THUMBÖTHUMB FORWARDÑHOOK CURLICUEÕÑCUP OPENÔÔ OPEN THUMB SIDEÕTHUMB SIDE
ÕOPEN NO THUMBÕNO THUMBÕOPEN THUMB FORWARDÕTHUMB FORWARDÓRLICUE OPENÙÒIRCLEÑOVALÕ THUMB SIDE
ÖNO THUMBÖTHUMB FORWARDÑHINGE OPENÛ THUMB FORWARDÖÖ d×OPEN THUMB SIDE×THUMB SIDE×OPEN NO THUMB
×NO THUMB×THUMB SIDE TOUCHING INDEXÝBETWEEN MIDDLE RINGÑANGLEÑFIST INDEX MIDDLE RING
ÑCIRCLE INDEX MIDDLE RINGÑHINGE INDEX MIDDLE RINGÑANGLE INDEX MIDDLE RINGÑHINGE LITTLE
ÑFIST INDEX MIDDLE RING BENTèCONJOINEDÑHINGE INDEX MIDDLE RING CONJOINEDÑFIST LITTLE DOWN
á RIPPLE STRAIGHTéCURVEDâOTHERS CIRCLEDÝUPÖTHUMB UNDER LITTLE UPÑCIRCLE LITTLE UPÑOVAL LITTLE UP
ÑANGLE LITTLE UPÑFIST LITTLE RAISED KNUCKLEÝBENTÝTOUCHES THUMBÞHUMBÑHINGE LITTLE THUMB
ÑFIST LITTLE INDEX THUMBÑHINGE LITTLE INDEX THUMBÑANGLE LITTLE INDEX THUMB INDEX THUMB OUTõ
ÑFIST LITTLE INDEXÑCIRCLE LITTLE INDEXÑHINGE LITTLE INDEXÑANGLE LITTLE INDEX
ÑFIST INDEX MIDDLE LITTLEÑCIRCLE INDEX MIDDLE LITTLEÑHINGE INDEX MIDDLE LITTLE×RING
ÑANGLE INDEX MIDDLE LITTLEÑFIST INDEX MIDDLE CROSS LITTLEÑCIRCLE INDEX MIDDLE CROSS LITTLE
ÑFIST RING DOWNÑHINGE RING DOWN INDEX THUMB HOOK MIDDLEÑANGLE RING DOWN MIDDLE THUMB INDEX CROSS
ÑFIST RING UPÛRAISED KNUCKLEÛLITTLEÑCIRCLE RING LITTLEÑOVAL RING LITTLEÑANGLE RING LITTLE
ÑFIST RING MIDDLEá CONJOINEDâRAISED KNUCKLESÛINDEXÛTHUMBÑHOOK RING THUMBÑFIST INDEX RING LITTLE
ÑCIRCLE INDEX RING LITTLEÒURLICUE INDEX RING LITTLE ONÑHOOK INDEX RING LITTLE OUTèINèUNDER
ÑCUP INDEX RING LITTLEÑHINGE INDEX RING LITTLEÑANGLE INDEX RING LITTLE OUTèÑFIST MIDDLE DOWN
ÑHINGE MIDDLEÑFIST MIDDLE UPÑCIRCLE MIDDLE UPÑFIST MIDDLE RAISED KNUCKLEÝUP THUMB SIDE
ÑHOOK MIDDLE THUMBÑFIST MIDDLE THUMB LITTLEÝLITTLEÝRING LITTLEÑCIRCLE MIDDLE RING LITTLE
ÒURLICUE MIDDLE RING LITTLE ONÓP MIDDLE RING LITTLEÑHINGE MIDDLE RING LITTLE
ÑANGLE MIDDLE RING LITTLE OUTêINéÑCIRCLE MIDDLE RING LITTLE BENTÒLAW MIDDLE RING LITTLE CONJOINED
ò SIDEÑHOOK MIDDLE RING LITTLE CONJOINED OUTóINòÒINGE INDEX HINGEDÑFIST INDEX THUMB SIDE
ÑHINGE INDEX THUMB SIDEÑFIST INDEX THUMB SIDE THUMB DIAGONALíCONJOINEDíBENTçINDEX BENTçBOTH BENT
çINDEX HINGEâFORWARD INDEX STRAIGHTðBENTâHOOKâCURLICUEåVE THUMB INSIDE
ÑCLAW INDEX THUMB CURVE THUMB INSIDEÑFIST INDEX THUMB CURVE THUMB UNDERãIRCLEÑCUP INDEX THUMB
à OPENÑHINGE INDEX THUMB OPENãLARGEââ dÑANGLE INDEX THUMB OUTãINâÑFIST THUMBÛ HEELÜSIDE DIAGONAL
áCONJOINEDáBENTÜFORWARDÜBETWEEN INDEX MIDDLEäMIDDLE RINGäRING LITTLEÜUNDER TWO FINGERS
ÜOVER TWO FINGERSÜUNDER THREE FINGERSâFOUR FINGERSÜOVER FOUR RAISED KNUCKLESÕÕ HEELÌTOUCH SINGLE
ÒMULTIPLEÒBETWEENÌGRASP SINGLEÒMULTIPLEÒBETWEENÌSTRIKE SINGLEÓMULTIPLEÓBETWEENÌBRUSH SINGLE
ÒMULTIPLEÒBETWEENÌRUB SINGLEÐMULTIPLEÐBETWEENÌSURFACE zSÔBETWEENÍQUEEZE LARGE SINGLEÔd SINGLE
ÔLARGE MULTIPLEÔd MULTIPLEÕEQUENTIALÌFLICK LARGE SINGLEÒd SINGLEÒLARGE MULTIPLEÒd MULTIPLE
ÓEQUENTIALÌSQUEEZE FLICK ALTERNATINGÌMOVEMENT-HINGE UP DOWN LARGEãdÞSEQUENTIALÛDOWN SEQUENTIAL
ÛUP DOWN ALTERNATING LARGEïdÛSIDE TO SIDE SCISSORSÕWALLPLANE FINGER CONTACT
ÕFLOORPLANE FINGER CONTACTÕWALLPLANE SINGLE STRAIGHT dïMEDIUMïLARGEôSTæWRIST FLEXßnSTRAIGHT
æWRIST FLEXæALTERNATINGñ WRIST FLEXßCROSSßTRIPLE STRAIGHT MOVEMENTæWRIST FLEXæALTERNATING
ñ WRIST FLEXßBEND däMEDIUMäLARGEßCORNER dæMEDIUMæLARGEæROTATIONàHECK dåMEDIUMåLARGEßBOX dãMEDIUM
ãLARGEßZIGZAG dæMEDIUMæLARGEßPEAKS dåMEDIUMåLARGEÌTRAVEL-WALLPLANE ROTATION-WALLPLANE SINGLE
ðDOUBLEðALTERNATINGæFLOORPLANE SINGLEñDOUBLEñALTERNATINGÝSHAKINGÝARM SPIRAL SINGLEèDOUBLEèTRIPLE
ÌMOVEMENT-DIAGONAL AWAY dãMEDIUMãLARGEèSTÞTOWARDS dæMEDIUMæLARGEëSTÞBETWEEN AWAY dëMEDIUMëLARGEðST
æTOWARDS dîMEDIUMîLARGEóSTÕFLOORPLANE SINGLE STRAIGHT dðMEDIUMðLARGEõSTçWRIST FLEXànSTRAIGHT
çWRIST FLEXçALTERNATINGò WRIST FLEXàCROSSàTRIPLE STRAIGHT MOVEMENTçWRIST FLEXçALTERNATING MOVEMENT
óWRIST FLEXàBENDàCORNER dçMEDIUMçLARGEáHECKàBOX däMEDIUMäLARGEàZIGZAG dçMEDIUMçLARGEàPEAKS d
æMEDIUMæLARGEÌTRAVEL-FLOORPLANE ROTATION-FLOORPLANE SINGLEòDOUBLEòALTERNATINGçWALLPLANE SINGLE
ñDOUBLEñALTERNATINGÞSHAKINGÌMOVEMENT-WALLPLANE CURVE QUARTER díMEDIUMíLARGEòSTåHALF-CIRCLE d
ñMEDIUMñLARGEöSTåTHREE-QUARTER CIRCLE dúMEDIUMßHUMP däMEDIUMäLARGEßLOOP däMEDIUMäLARGEäd DOUBLE
ßWAVE CURVE ndñMEDIUMñLARGEêTRIPLE dñMEDIUMñLARGEßCURVE THEN STRAIGHTäD CROSS dìMEDIUM
ÌROTATION-WALLPLANE SINGLEßDOUBLEßALTERNATEÌMOVEMENT-WALLPLANE SHAKINGßCURVE HITTING FRONT WALL
ßHUMP HITTING FRONT WALLßLOOP HITTING FRONT WALLßWAVE HITTING FRONT WALL
ÌROTATION-WALLPLANE SINGLE HITTING FRONT WALLßnHITTING FRONT WALLßALTERNATING HITTING FRONT WALL
ÌMOVEMENT-WALLPLANE CURVE HITTING CHESTßHUMP HITTING CHESTßLOOP HITTING CHESTßWAVE HITTING CHEST
ÌROTATION-WALLPLANE SINGLE HITTING CHESTßnHITTING CHESTßALTERNATING HITTING CHEST
ÌMOVEMENT-WALLPLANE WAVE DIAGONAL PATH dòMEDIUMòLARGEÕFLOORPLANE CURVE HITTING CEILING döLARGE
àHUMP HITTING CEILING d DOUBLEõLARGE DOUBLEõd TRIPLEõLARGE TRIPLEàLOOP HITTING CEILING d SINGLE
õLARGE SINGLEõd DOUBLEõLARGE DOUBLEàWAVE HITTING CEILING dõLARGE
ÌROTATION-FLOORPLANE SINGLE HITTING CEILINGànHITTING CEILINGàALTERNATING HITTING CEILING
ÌMOVEMENT-FLOORPLANE CURVE HITTING FLOOR dôLARGEàHUMP HITTING FLOOR d DOUBLEóLARGE DOUBLE
óTRIPLE d TRIPLEúLARGE TRIPLEàLOOP HITTING FLOOR d SINGLEóLARGE SINGLEód DOUBLEóLARGE DOUBLE
àWAVE HITTING FLOOR dóLARGEÌROTATION-FLOORPLANE SINGLE HITTING FLOORànHITTING FLOOR
àALTERNATING HITTING FLOORÌMOVEMENT-FLOORPLANE CURVE dæMEDIUMæLARGEëSTæCOMBINEDàHUMP dàLOOP d
àWAVE SNAKEæMALLåLARGEÌROTATION-FLOORPLANE SINGLEàDOUBLEàALTERNATING
ÌMOVEMENT-FLOORPLANE SHAKING PARALLELÕWALLPLANE ARM CIRCLE d SINGLEêMEDIUM SINGLEêd DOUBLE
êMEDIUM DOUBLEÕFLOORPLANE ARM CIRCLE HITTING WALL d SINGLEøMEDIUM SINGLEøLARGE SINGLEød DOUBLE
øMEDIUM DOUBLEøLARGE DOUBLEÕWALLPLANE WRIST CIRCLE FRONT SINGLEòDOUBLE
ÕFLOORPLANE WRIST CIRCLE HITTING WALL SINGLEúDOUBLEÕWALLPLANE FINGER CIRCLES SINGLEîDOUBLE
ÕFLOORPLANE FINGER CIRCLES HITTING WALL SINGLEüDOUBLEÌDYNAMIC gHEAD dÞLARGEÔFASTÔSLOWÔTENSE
ÔRELAXEDÔSIMULTANEOUSà ALTERNATINGÔEVERY OTHER TIMEÔGRADUALÌHEADÐ RIMÑMOVEMENT-WALLPLANE STRAIGHT
äTILTÚFLOORPLANE STRAIGHTÚWALLPLANE CURVEÚFLOORPLANE CURVEÙ CIRCLE
ÌFACE DIRECTION POSITION NOSE FORWARD TILTINGéUP OR DOWNó TILTINGÌEYEBROWS STRAIGHT UPÞNEUTRAL
ÞDOWNÌDREAMY EYEBROWS NEUTRAL DOWNÜDOWN NEUTRALÜUP NEUTRALÜNEUTRAL UPÌFOREHEAD NEUTRALÕCONTACT
ÕWRINKLEDÌEYES OPENÑSQUEEZEDÑCLOSEDÏ BLINK SINGLEÖMULTIPLEÏS HALF OPENÑWIDE OPENÑHALF CLOSED
ÑWIDENING MOVEMENTÏ WINKÏLASHES UPÖDOWNÖFLUTTERINGÏGAZE-WALLPLANE STRAIGHTæ DOUBLEçALTERNATING
ÔFLOORPLANE STRAIGHTç DOUBLEèALTERNATINGÔWALLPLANE CURVEDÔFLOORPLANE CURVEDÔWALLPLANE CIRCLING
ÌCHEEKS PUFFEDÓNEUTRALÓSUCKEDÌTENSE CHEEKS HIGHÙMIDDLEÙLOWÌEARSÌNOSE NEUTRALÑCONTACTÑWRINKLES
ÒIGGLESÌAIR BLOWING OUTÐSUCKING INÐBLOW d ROTATIONSÐSUCK d ROTATIONSÌBREATH INHALEÓEXHALE
ÌMOUTH CLOSED NEUTRALÙFORWARDÙCONTACTÒSMILE× WRINKLEDØOPENÒFROWN× WRINKLEDØOPENÒOPEN CIRCLE
×FORWARD×WRINKLED×OVALÛ WRINKLEDÜYAWN×RECTANGLEà WRINKLEDáYAWNÒKISSÖ FORWARD×WRINKLEDÒTENSE
× FORWARDØSUCKEDÌLIPS PRESSED TOGETHERÏ LOWER OVER UPPERÐUPPER OVER LOWERÌMOUTH CORNERS
ÒWRINKLES SINGLEÛDOUBLEÌTONGUE STICKING OUT FARÓLICKING LIPSÓTIP BETWEEN LIPS
×TOUCHING INSIDE MOUTHÓINSIDE MOUTH RELAXEDÓMOVES AGAINST CHEEKÓCENTRE STICKING OUTÚINSIDE MOUTH
ÍEETHÑ MOVEMENTÒON TONGUEÛ MOVEMENTÕLIPSÙ MOVEMENTÒBITE LIPSÌMOVEMENT-WALLPLANE JAWÕFLOORPLANE JAW
ÌNECKÌHAIRÌEXCITEMENTÌSHOULDER HIP SPINEÙPOSITIONSÌWALLPLANE SHOULDER HIP MOVE
ÌFLOORPLANE SHOULDER HIP MOVEÌSHOULDER TILTING FROM WAISTÌTORSO-WALLPLANE STRAIGHT STRETCH
ÜCURVED BENDÒFLOORPLANE TWISTINGÌUPPER BODY TILTING FROM HIP JOINTSÌLIMB COMBINATIONÑLENGTH-1Ø2Ø3
Ø4Ø5Ø6Ø7ÌFINGERÌLOCATION-WALLPLANE SPACEÕFLOORPLANE SPACEÔ HEIGHTÕWIDTHÕDEPTHÕHEAD NECKÕTORSO
ÕLIMBS DIGITSÌCOMMAÌFULL STOPÌSEMICOLONÌCOLONÌPARENTHESIS=1da9bÌFILL MODIFIER-2Ú3Ú4Ú5Ú6
=1daa1ÌROTATION MODIFIER-2Þ3Þ4Þ5Þ6Þ7Þ8Þ9Þ10ß1ß2ß3ß4ß5ß6=1df00ÀLATIN dbFENG DIGRAPHaTRILL
ÓREVERSED SCRIPT GÆvd c TURNED GÆdbREVERSED KÆvd c LaBELTÆdbLEZHaRETROFLEX HOOKÓTURNED YaBELT
ÓREVERSED ENGÓTURNED RaLONG LEGfRETROFLEX HOOKÔaHOOKfRETROFLEX HOOK
ÆvRETROFLEX CLICKaRETROFLEX HOOKÆdbESHanBARæfCURLÓTURNED TaCURLÆvINVERTED GLOTTAL STOPaCURL
ÍSTRETCHED CaCURLÎMALL c TURNED KÆdbLaFISHHOOKÓDEZH DIGRAPHaPALATAL HOOKÓLaBELTfPALATAL HOOK
ÓENGaPALATAL HOOKÓTURNED RaPALATAL HOOKÓRaFISHHOOKfPALATAL HOOKÓTESH DIGRAPHaPALATAL HOOK
ÓEZHaPALATAL HOOKÓDEZH DIGRAPHaRETROFLEX HOOKÓIawfRETROFLEX HOOKÓOaRETROFLEX HOOK
ÓTESH DIGRAPHaRETROFLEX HOOKÓCaRETROFLEX HOOKÓSaCURL=1e000ÀCOMBINING GLAGOLITICbAZUÜBUKYÜVEDE
ÜGLAGOLIÜDOBROÜYESTUÜZHIVETE=1e008ÝEMLJAÜIZHEÝNITIAL IZHEÝÜDJERVIÜKAKOÜLJUDIJEÜMYSLITEÜNASHIÜONU
ÜPOKOJIÜRITSIÜSLOVOÜTVRIDOÜUKUÜFRITUÜHERU=1e01bÜSHTAÜTSIÜCHRIVIÜSHAÜYERUßIÝATI=1e023ÝUÜd YUS
=1e026ÜYOÜIOTATED d YUSÜBIG YUSÜIOTATED BIG YUSÜFITA=1e100ÀNYIAKENG PUACHUE HMONGbMAÞTSAÞNTAÞTAÞHA
ÞNAÞXAÞNKAÞCAÞLAÞSAÞZAÞNCAßTSAÞKAÞDAÞNYAßRAÞVAÞNTXAÞTXAÞFAÞRAÞQAÞYAÞNQAÞPAÞXYAÞNPAÞDLAÞNPLAÞHAH
ÞMLAÞPLAÞGAÞRRAÞAßAÞIÞUÞOßOÞEßEÞW=1e130×TONE-BÜMÜJÜVÜSÜGÜD×k FOR PERSONàTHINGàLOCATIONàANIMAL
àINVERTEBRATEÜXW XWØYLLABLE LENGTHENER=1e140×DIGIT ZEROÝONEÝTWOÞHREEÝFOURÞIVEÝSIXÞEVENÝEIGHTÝNINE
=1e14e×LOGOGRAM NYAJ×CIRCLED CA=1e290ÀTOTObPAÌBAÌTAÌDAÌKAÌGAÌMAÌNAÍGAÌSAÌCHAÌYAÌWAÌJAÌHAÌRAÌLAÌI
ÌBREATHY IÌIUÌBREATHY IUÌUÌEÌBREATHY EÌEOÌBREATHY EOÌOÌAEÌBREATHY AEÌAÅk RISING TONE
=1e2c0ÀWANCHObAAÏÎBAÎCAÎDAÎGAÎYAÎPHAÎLAÎNAÎPAÎTAÏHAÎFAÎSAÏHAÎJAÎZAÎWAÎVAÎKAÎOÎAUÎRAÎMAÎKHAÎHAÎEÎI
ÎNGAÎUÎLLHAÎTSAÏRAÎONGÎAANGÏNGÎINGÎONÎENÎAANÎNYAÎUENÎYIHÇTONE TUPÏNIÌKOIÏNIÇDIGIT ZEROÍONEÍTWO
ÎHREEÍFOURÎIVEÍSIXÎEVENÍEIGHTÍNINE=1e2ffÇNGUN k=1e7e0ÀETHIOPIC SYLLABLE HHYAÕUÕIÕAAÕEEÖÕO
=1e7e8ÒGURAGE HHWAÒHHWIÕEEÖ=1e7edÒGURAGE MWIÛEE=1e7f0ÙQWIÛEEÜÙBWIÛEEÙKWIÛEEÜÙGWIÛEEÜÙFWIÛEEÙPWIÛEE
=1e800ÀMENDE KIKAKUI SYLLABLE M001 KIÚ2 KAÚ3 KUÙ65 KEEÙ95 KEÙ76 KOOÙ48 KOØ179 KUAØ004 WIÚ5 WAÚ6 WU
Ø126 WEEÙ18 WEÚ4 WOOØ045 WOØ194 WUIÙ43 WEIØ061 WVIÙ49 WVAØ139 WVEØ007 MINÚ8 MANÚ9 MUNÙ59 MEN
Ù94 MONØ154 MUANÙ89 MUENØ010 BIÚ1 BAÚ2 BUØ150 BEEØ097 BEØ103 BOOÙ38 BOØ013 IÚ4 AÚ5 UØ163 EEÙ00 E
Ù65 OOÙ47 OÙ37 EIÚ1 INÚ5 INÙ95 ANÙ78 ENØ019 SIÙ20 SAÚ1 SUØ162 SEEÙ16 SEÙ36 SOOØ079 SOØ196 SIA
Ø025 LIÚ6 LAÚ7 LUÙ84 LEEÙ73 LEÙ54 LOOØ153 LOÙ10 LONG LEØ016 DIÚ7 DAÚ8 DUÙ89 DEEØ180 DOOÚ1 DO
Ø022 TIÚ3 TAÚ4 TUÙ91 TEEÙ55 TEØ104 TOOØ069 TOÙ28 JIÚ9 JAÙ30 JUØ157 JEEÙ13 JEÙ60 JOOØ063 JO
Ø175 LONG JOØ031 YIÚ2 YAÚ3 YUØ109 YEEØ080 YEØ141 YOOÙ21 YOØ034 FIÚ5 FAÚ6 FUÙ78 FEEÚ5 FEØ133 FOO
Ø088 FOØ197 FUAÙ01 FANØ037 NINÚ8 NANÚ9 NUNØ117 NENÙ69 NONÙ76 HIØ041 HAØ186 HUØ040 HEEÙ96 HEÙ42 HOO
Ø140 HOØ083 HEEIØ128 HOOUØ053 HINØ130 HANØ087 HUNÙ52 HENØ193 HONØ046 HUANÙ90 NGGIÙ43 NGGAÙ82 NGGU
Ø115 NGGEEÙ46 NGGEÙ56 NGGOOÙ20 NGGOÙ59 NGGAAÙ27 NGGUAØ086 LONG NGGEØ106 LONG NGGOOÙ83 LONG NGGO
Ù55 GIÙ11 GAÙ68 GUÙ90 GEEÙ66 GUEIÚ7 GUANÙ84 NGENØ057 NGONØ177 NGUANØ068 PIÙ99 PAÙ50 PUÙ81 PEE
Ù51 PEØ102 POOØ066 POØ145 MBIØ062 MBAØ122 MBUØ047 MBEEØ188 MBEEØ072 MBEØ172 MBOOÚ4 MBOÙ87 MBUU
Ù61 LONG MBEÙ05 LONG MBOOÙ42 LONG MBOÙ32 KPIØ092 KPAÙ74 KPUÙ44 KPEEØ108 KPEÙ12 KPOOÙ58 KPOÙ24 GBI
Ø056 GBAØ148 GBUØ093 GBEEØ107 GBEØ071 GBOOÚ0 GBOØ171 RAÙ23 NDIÚ9 NDAÚ5 NDUÙ91 NDEEÙ19 NDEØ067 NDOO
Ú4 NDOØ152 NJAÙ92 NJUÙ49 NJEEÙ34 NJOOÙ82 VIÚ5 VAÙ51 VUÙ73 VEEØ085 VEØ144 VOOØ077 VOØ164 NYIN
Ø058 NYANØ170 NYUNØ098 NYENÙ60 NYON=1e8c7ÎDIGIT ONEÔTWOÕHREEÔFOURÕIVEÔSIXÕEVENÔEIGHTÔNINE
ÎCOMBINING NUMBER TEENSáNSßHUNDREDSßTHOUSANDSàEN THOUSANDSßHUNDRED THOUSANDSßMILLIONS
=1e900ÀADLAM cbALIFÕDAALIÕLAAMÕMIIMÕBAÕSINNYIIYHEÕPEÕBHEÕRAÕEÕFAÕIÕOÕDHAÕYHEÕWAWÕNUNÕKAFÕYAÕUÕJIIM
ÕCHIÕHAÕQAAFÕGAÕNYAÕTUÕNHAÕVAÕKHAÕGBEÕZALÕKPOÕSHAÆdbALIFÓDAALIÓLAAMÓMIIMÓBAÓSINNYIIYHEÓPEÓBHEÓRAÓE
ÓFAÓIÓOÓDHAÓYHEÓWAWÓNUNÓKAFÓYAÓUÓJIIMÓCHIÓHAÓQAAFÓGAÓNYAÓTUÓNHAÓVAÓKHAÓGBEÓZALÓKPOÓSHA
ÆALIF LENGTHENERÆyLENGTHENERÆGEMINATION MARKÆHAMZAÆCONSONANT MODIFIERÆGEMINATE CONSONANT MODIFIER
ÆNUKTAÇASALIZATION MARK=1e950ÆDIGIT ZEROÌONEÌTWOÍHREEÌFOURÍIVEÌSIXÍEVENÌEIGHTÌNINE
=1e95eÆINITIAL EXCLAMATION MARKÎQUESTION MARK=1ec71ÀINDIC SIYAQ NUMBER ONEÓTWOÔHREEÓFOURÔIVEÓSIX
ÔEVENÓEIGHTÓNINEÓTENÔWENTYÔHIRTYÓFORTYÔIFTYÓSIXTYÔEVENTYÓEIGHTYÓNINETYÓONE HUNDREDÓTWO HUNDRED
ÔHREE HUNDREDÓFOUR HUNDREDÔIVE HUNDREDÓSIX HUNDREDÔEVEN HUNDREDÓEIGHT HUNDREDÓNINE HUNDRED
ÓONE THOUSANDÓTWO THOUSANDÔHREE THOUSANDÓFOUR THOUSANDÔIVE THOUSANDÓSIX THOUSANDÔEVEN THOUSAND
ÓEIGHT THOUSANDÓNINE THOUSANDÓTEN THOUSANDÔWENTY THOUSANDÔHIRTY THOUSANDÓFORTY THOUSAND
ÔIFTY THOUSANDÓSIXTY THOUSANDÔEVENTY THOUSANDÓEIGHTY THOUSANDÓNINETY THOUSANDÓLAKH×ANÌLAKH MARK
ÌNUMBER KARORØANÓPREFIXED ONEÜTWOÝHREEÜFOURÝIVEÜSIXÝEVENÜEIGHTÜNINEÌPLACEHOLDER
ÌFRACTION ONE QUARTERÙHALFÕTHREE QUARTERSÌRUPEE MARKÌNUMBER ALTERNATE ONEÝTWOÞEN THOUSAND
ÌALTERNATE LAKH MARK=1ed01ÀOTTOMAN SIYAQ NUMBER ONEÕTWOÖHREEÕFOURÖIVEÕSIXÖEVENÕEIGHTÕNINEÕTEN
ÖWENTYÖHIRTYÕFORTYÖIFTYÕSIXTYÖEVENTYÕEIGHTYÕNINETYÕONE HUNDREDÕTWO HUNDREDÖHREE HUNDRED
ÕFOUR HUNDREDÖIVE HUNDREDÕSIX HUNDREDÖEVEN HUNDREDÕEIGHT HUNDREDÕNINE HUNDREDÕONE THOUSAND
ÕTWO THOUSANDÖHREE THOUSANDÕFOUR THOUSANDÖIVE THOUSANDÕSIX THOUSANDÖEVEN THOUSANDÕEIGHT THOUSAND
ÕNINE THOUSANDÕTEN THOUSANDÖWENTY THOUSANDÖHIRTY THOUSANDÕFORTY THOUSANDÖIFTY THOUSAND
ÕSIXTY THOUSANDÖEVENTY THOUSANDÕEIGHTY THOUSANDÕNINETY THOUSANDÎMARRATANÎALTERNATE NUMBER TWOàHREE
ßFOURàIVEßSIXàEVENßEIGHTßNINEßTENßFOUR HUNDREDßSIX HUNDREDßTWO THOUSANDàEN THOUSAND
ÎFRACTION ONE HALFÛSIXTH=1ee00ÀARABIC MATHEMATICAL ALEFÔBEHÔJEEMÔDAL=1ee05ÔWAWÔZAINÔHAHÔTAHÔYEH
ÔKAFÔLAMÔMEEMÔNOONÔSEENÔAINÔFEHÔSADÔQAFÔREHÔSHEENÔTEHÕHEHÔKHAHÔTHALÔDADÔZAHÔGHAINÔDOTLESS BEHÜNOON
ÜFEHÜQAF=1ee21ÔINITIAL BEHÜJEEM=1ee24ÜHEH=1ee27ÝAH=1ee29ÜYEHÜKAFÜLAMÜMEEMÜNOONÜSEENÜAINÜFEHÜSAD
ÜQAF=1ee34ÜSHEENÜTEHÝHEHÜKHAH=1ee39ÜDAD=1ee3bÜGHAIN=1ee42ÔTAILED JEEM=1ee47ÛHAH=1ee49ÛYEH
=1ee4bÛLAM=1ee4dÛNOONÛSEENÛAIN=1ee51ÛSADÛQAF=1ee54ÛSHEEN=1ee57ÛKHAH=1ee59ÛDAD=1ee5bÛGHAIN
=1ee5dÛDOTLESS NOON=1ee5fãQAF=1ee61ÔSTRETCHED BEHÞJEEM=1ee64ÞHEH=1ee67ßAHÞTAHÞYEHÞKAF=1ee6cÞMEEM
ÞNOONÞSEENÞAINÞFEHÞSADÞQAF=1ee74ÞSHEENÞTEHßHEHÞKHAH=1ee79ÞDADÞZAHÞGHAINÞDOTLESS BEH=1ee7eæFEH
=1ee80ÔLOOPED ALEFÛBEHÛJEEMÛDALÛHEHÛWAWÛZAINÛHAHÛTAHÛYEH=1ee8bÛLAMÛMEEMÛNOONÛSEENÛAINÛFEHÛSADÛQAF
ÛREHÛSHEENÛTEHÜHEHÛKHAHÛTHALÛDADÛZAHÛGHAIN=1eea1ÔDOUBLE-STRUCK BEHâJEEMâDAL=1eea5âWAWâZAINâHAHâTAH
âYEH=1eeabâLAMâMEEMâNOONâSEENâAINâFEHâSADâQAFâREHâSHEENâTEHãHEHâKHAHâTHALâDADâZAHâGHAIN
=1eef0ÔOPERATOR MEEMaHAHaTATWEELÝHAHaDAL=1f000ÀMAHJONG TILE EAST WINDÍSOUTH WINDÍWEST WIND
ÍNORTH WINDÍRED DRAGONÍGREEN DRAGONÍuDRAGONÍONE OF CHARACTERSÍTWO OF CHARACTERSÎHREE OF CHARACTERS
ÍFOUR OF CHARACTERSÎIVE OF CHARACTERSÍSIX OF CHARACTERSÎEVEN OF CHARACTERSÍEIGHT OF CHARACTERS
ÍNINE OF CHARACTERSÍONE OF BAMBOOSÍTWO OF BAMBOOSÎHREE OF BAMBOOSÍFOUR OF BAMBOOSÎIVE OF BAMBOOS
ÍSIX OF BAMBOOSÎEVEN OF BAMBOOSÍEIGHT OF BAMBOOSÍNINE OF BAMBOOSÍONE OF CIRCLESÍTWO OF CIRCLES
ÎHREE OF CIRCLESÍFOUR OF CIRCLESÎIVE OF CIRCLESÍSIX OF CIRCLESÎEVEN OF CIRCLESÍEIGHT OF CIRCLES
ÍNINE OF CIRCLESÍPLUMÍORCHIDÍBAMBOOÍCHRYSANTHEMUMÍSPRINGÎUMMERÍAUTUMNÍWINTERÍJOKERÍBACK
=1f030ÀDOMINO TILE HORIZONTAL BACKÖ-00-00Û1Û2Û3Û4Û5Û6Ø1-00Û1Û2Û3Û4Û5Û6Ø2-00Û1Û2Û3Û4Û5Û6Ø3-00Û1Û2Û3
Û4Û5Û6Ø4-00Û1Û2Û3Û4Û5Û6Ø5-00Û1Û2Û3Û4Û5Û6Ø6-00Û1Û2Û3Û4Û5Û6Ìt BACKÔ-00-00Ù1Ù2Ù3Ù4Ù5Ù6Ö1-00Ù1Ù2Ù3Ù4Ù5
Ù6Ö2-00Ù1Ù2Ù3Ù4Ù5Ù6Ö3-00Ù1Ù2Ù3Ù4Ù5Ù6Ö4-00Ù1Ù2Ù3Ù4Ù5Ù6Ö5-00Ù1Ù2Ù3Ù4Ù5Ù6Ö6-00Ù1Ù2Ù3Ù4Ù5Ù6
=1f0a0ÀPLAYING CARD BACKÍACE OF SPADESÍTWO OF SPADESÎHREE OF SPADESÍFOUR OF SPADESÎIVE OF SPADES
ÍSIX OF SPADESÎEVEN OF SPADESÍEIGHT OF SPADESÍNINE OF SPADESÍTEN OF SPADESÍJACK OF SPADES
ÍKNIGHT OF SPADESÍQUEEN OF SPADESÍKING OF SPADES=1f0b1ÍACE OF HEARTSÍTWO OF HEARTSÎHREE OF HEARTS
ÍFOUR OF HEARTSÎIVE OF HEARTSÍSIX OF HEARTSÎEVEN OF HEARTSÍEIGHT OF HEARTSÍNINE OF HEARTS
ÍTEN OF HEARTSÍJACK OF HEARTSÍKNIGHT OF HEARTSÍQUEEN OF HEARTSÍKING OF HEARTSÍRED JOKER
=1f0c1ÍACE OF DIAMONDSÍTWO OF DIAMONDSÎHREE OF DIAMONDSÍFOUR OF DIAMONDSÎIVE OF DIAMONDS
ÍSIX OF DIAMONDSÎEVEN OF DIAMONDSÍEIGHT OF DIAMONDSÍNINE OF DIAMONDSÍTEN OF DIAMONDS
ÍJACK OF DIAMONDSÍKNIGHT OF DIAMONDSÍQUEEN OF DIAMONDSÍKING OF DIAMONDSÍxJOKER=1f0d1ÍACE OF CLUBS
ÍTWO OF CLUBSÎHREE OF CLUBSÍFOUR OF CLUBSÎIVE OF CLUBSÍSIX OF CLUBSÎEVEN OF CLUBSÍEIGHT OF CLUBS
ÍNINE OF CLUBSÍTEN OF CLUBSÍJACK OF CLUBSÍKNIGHT OF CLUBSÍQUEEN OF CLUBSÍKING OF CLUBSÍuJOKERÍFOOL
ÍTRUMP-1Ó2Ó3Ó4Ó5Ó6Ó7Ó8Ó9Ó10Ô1Ô2Ô3Ô4Ô5Ô6Ô7Ô8Ô9Ó20Ô1=1f100ÀDIGIT ZERO FULL STOPËCOMMAÆONE COMMA
ÆTWO COMMAÇHREE COMMAÆFOUR COMMAÇIVE COMMAÆSIX COMMAÇEVEN COMMAÆEIGHT COMMAÆNINE COMMA
ÂNGBAT CIRCLED SANS-SERIF DIGIT ZEROÈNEGATIVE CIRCLED SANS-SERIF DIGIT ZEROÀCIRCLED ZEROaSLASH
ÈANTICLOCKWISE gÈDOLLAR kaOVERLAID BACKSLASHÀPARENTHESIZED LATIN cbAãBãCãDãEãFãGãHãIãJãKãLãMãNãOãP
ãQãRãSãTãUãVãWãXãYãZÀTORTOISE SHELL BRACKETED LATIN cbSÀCIRCLED ITALIC LATIN cbCäRÈCDÈWZÁOPYpz
ÀSQUARED LATIN cbAÝBÝCÝDÝEÝFÝGÝHÝIÝJÝKÝLÝMÝNÝOÝPÝQÝRÝSÝTÝUÝVÝWÝXÝYÝZÈHVÈMVÈSDÉSÈPPVÈWC
ÀNEGATIVE CIRCLED LATIN cbAæBæCæDæEæFæGæHæIæJæKæLæMæNæOæPæQæRæSæTæUæVæWæXæYæZÀRAISED MC kÈD kÈR k
ÀCIRCLED CCÉaOVERLAID BACKSLASHÈHUMAN FIGUREÀNEGATIVE SQUARED LATIN cbAæBæCæDæEæFæGæHæIæJæKæLæMæN
æOæPæQæRæSæTæUæVæWæXæYæZÀCROSSED NEGATIVE SQUARED LATIN cbPÀNEGATIVE SQUARED ICÑPAÑSAÑABÑWC
ÀSQUARE DJÆD CLÉOOLÈFREEÈIDÈNEWÉGÈOKÈSOSÈUPaEXCLAMATION MARKÈVSÈTHREE DÈSECOND SCREENÈTWO KÈFOUR K
ÈEIGHT KÈFIVE POINT ONEÈSEVEN POINT ONEÈTWENTY-TWO POINT TWOÈSIXTY PÈONE HUNDRED TWENTY P
ÈLATIN dbDÈHCÉDRÉI-RESÈLOSSLESSÈSHVÈUHDÈVODÀMASK WORK z=1f1e6ÀREGIONAL INDICATOR zbAáBáCáDáEáFáGáH
áIáJáKáLáMáNáOáPáQáRáSáTáUáVáWáXáYáZÀSQUARE HIRAGANA HOKAÆD KATAKANA KOKOÑSA
=1f210ÈCJK UNIFIED IDEOGRAPH-624BÞ5B57ß3CCÈKATAKANA DEÈCJK UNIFIED IDEOGRAPH-4E8CÞ591AÞ89E3Þ5929
Þ4EA4Þ6620Þ7121Þ6599Þ524DßF8Cß18DÞ65B0Þ521DÞ7D42ß51FÞ8CA9Þ58F0ß439Þ6F14ß295ß355Þ4E00á9Þ904AÞ5DE6
Þ4E2DÞ53F3Þ6307Þ8D70Þ6253Þ7981ßA7AÞ5408Þ6E80ß709á8Þ7533Þ5272ß5B6Þ914D
=1f240ÀTORTOISE SHELL BRACKETED CJK UNIFIED IDEOGRAPH-672Cï4E09ñ8Cï5B89ï70B9ï6253ï76D7ï52DDï6557
=1f250ÀCIRCLED IDEOGRAPH ADVANTAGEÓCCEPT=1f260ÀROUNDED z FOR FUÓLUÓSHOUÓXIÓSHUANGXIÓCAI
=1f300ÀCYCLONEÀFOGGYÀCLOSED UMBRELLAÀNIGHTaSTARSÀSUNRISE OVER MOUNTAINSÇÀCITYSCAPE AT DUSK
ÀSUNSET OVER BUILDINGSÀRAINBOWÀBRIDGE AT NIGHTÀWATER WAVEÀVOLCANOÀMILKY WAY
ÀEARTH GLOBE EUROPE-AFRICAÌAMERICASÍSIA-AUSTRALIAÀGLOBEaMERIDIANSÀNEW MOON z
ÀWAXING CRESCENT MOON zÀFIRST QUARTER MOON zÀWAXING GIBBOUS MOON zÀFULL MOON z
ÀWANING GIBBOUS MOON zÀLAST QUARTER MOON zÀWANING CRESCENT MOON zÀCRESCENT MOONÀNEW MOONaFACE
ÀFIRST QUARTER MOONaFACEÀLAST QUARTER MOONaFACEÀFULL MOONaFACEÀSUNaFACEÀGLOWING STARÀSHOOTING STAR
ÀTHERMOMETERÀxDROPLETÀuSUNÉad CLOUDÊBEHIND CLOUDÖaRAINÀCLOUDaRAINËSNOWËLIGHTNINGËTORNADOÀFOG
ÀWIND BLOWING FACEÀHOT DOGÀTACOÀBURRITOÀCHESTNUTÀSEEDLINGÀEVERGREEN TREEÀDECIDUOUS TREEÀPALM TREE
ÀCACTUSÀHOT PEPPERÀTULIPÀCHERRY BLOSSOMÀROSEÀHIBISCUSÀSUNFLOWERÀBLOSSOMÀEAR OF MAIZEÇRICEÀHERB
ÀFOUR LEAF CLOVERÀMAPLE LEAFÀFALLEN LEAFÀLEAF FLUTTERING IN WINDÀMUSHROOMÀTOMATOÀAUBERGINEÀGRAPES
ÀMELONÀWATERMELONÀTANGERINEÀLEMONÀBANANAÀPINEAPPLEÀRED APPLEÀGREEN APPLEÀPEARÃCHÀCHERRIES
ÀSTRAWBERRYÀHAMBURGERÀSLICE OF PIZZAÀMEAT ON BONEÀPOULTRY LEGÀRICE CRACKERÅBALLÀCOOKED RICE
ÁURRYfRICEÀSTEAMING BOWLÁPAGHETTIÀBREADÀFRENCH FRIESÀROASTED SWEET POTATOÀDANGOÀODENÀSUSHI
ÀFRIED SHRIMPÁISH CAKEaSWIRL DEkÀSOFT ICE CREAMÁHAVED ICEÀICE CREAMÀDOUGHNUTÀCOOKIEÁHOCOLATE BAR
ÁANDYÀLOLLIPOPÀCUSTARDÀHONEY POTÀSHORTCAKEÀBENTO BOXÀPOT OF FOODÀCOOKINGÀFORKfKNIFE
ÀTEACUP WITHOUT HANDLEÀSAKE BOTTLEfCUPÀWINE GLASSÀCOCKTAIL GLASSÀTROPICAL DRINKÀBEER MUG
ÀCLINKING BEER MUGSÀBABY BOTTLEÀFORKfKNIFEaPLATEÀBOTTLEaPOPPING CORKÀPOPCORNÀRIBBON
ÀWRAPPED PRESENTÀBIRTHDAY CAKEÀJACK-O-LANTERNÀCHRISTMAS TREEÀFATHER CHRISTMASÁIREWORKSÈ SPARKLER
ÀBALLOONÀPARTY POPPERÀCONFETTI BALLÀTANABATA TREEÀCROSSED FLAGSÀPINE DECORATIONÀJAPANESE DOLLS
ÀCARP STREAMERÀWIND CHIMEÀMOON VIEWING CEREMONYÀSCHOOL SATCHELÀGRADUATION CAP
ÀHEARTaTIP ON THE LEFTÀBOUQUET OF FLOWERSÀMILITARY MEDALÀREMINDER RIBBONÀMUSICAL KEYBOARDaJACKS
ÀSTUDIO MICROPHONEÀLEVEL SLIDERÀCONTROL KNOBSÀBEAMED ASCENDING MUSICAL NOTES
ÇDESCENDING MUSICAL NOTESÀFILM FRAMESÀADMISSION TICKETSÀCAROUSEL HORSEÀFERRIS WHEELÀROLLER COASTER
ÀFISHING POLEfFISHÀMICROPHONEÁOVIE CAMERAÀCINEMAÀHEADPHONEÀARTIST PALETTEÀTOP HATÀCIRCUS TENT
ÀTICKETÀCLAPPER BOARDÀPERFORMING ARTSÀVIDEO GAMEÀDIRECT HITÀSLOT MACHINEÀBILLIARDSÀGAME DIE
ÀBOWLINGÀFLOWER PLAYING CARDSÀMUSICAL NOTEÂLTIPLE MUSICAL NOTESÀSAXOPHONEÀGUITARÀMUSICAL KEYBOARD
ÀTRUMPETÀVIOLINÀMUSICAL SCOREÀRUNNING SHIRTaSASHÀTENNIS RACQUETfBALLÀSKIfSKI BOOTÀBASKETBALLfHOOP
ÀCHEQUERED FLAGÀSNOWBOARDERÀRUNNERÀSURFERÁPORTS MEDALÀTROPHYÀHORSE RACINGÀAMERICAN FOOTBALL
ÀRUGBY FOOTBALLÀSWIMMERÀWEIGHT LIFTERÀGOLFERÀRACING MOTORCYCLEÇCARÀCRICKET BATfBALLÀVOLLEYBALL
ÀFIELD HOCKEY STICKfBALLÀICE HOCKEY STICKfPUCKÀTABLE TENNIS PADDLEfBALLÀSNOW CAPPED MOUNTAIN
ÀCAMPINGÀBEACHaUMBRELLAÁUILDING CONSTRUCTIONÀHOUSE BUILDINGSÀCITYSCAPEÀDERELICT HOUSE BUILDING
ÀCLASSICAL BUILDINGÀDESERTÆ ISLANDÀNATIONAL PARKÀSTADIUMÀHOUSE BUILDINGÆWITH GARDEN
ÀOFFICE BUILDINGÀJAPANESE POST OFFICEÀEUROPEAN POST OFFICEÀHOSPITALÀBANKÀAUTOMATED TELLER MACHINE
ÀHOTELÀLOVE HOTELÀCONVENIENCE STOREÀSCHOOLÀDEPARTMENT STOREÀFACTORYÀIZAKAYA LANTERN
ÀJAPANESE CASTLEÀEUROPEAN CASTLEÀuPENNANTÀxPENNANTÀWAVING uFLAGÇxFLAGÀROSETTEÀxROSETTEÀLABEL
ÀBADMINTON RACQUETfSHUTTLECOCKÁOWfgÀAMPHORAÀEMOJI MODIFIER FITZPATRICK TYPE-1-2à3à4à5à6ÀRATÀMOUSE
ÀOXÀWATER BUFFALOÀCOWÀTIGERÀLEOPARDÀRABBITÀCATÀDRAGONÀCROCODILEÀWHALEÀSNAILÃKEÀHORSEÀRAMÀGOAT
ÀSHEEPÀMONKEYÀROOSTERÀCHICKENÀDOGÀPIGÀBOARÀELEPHANTÀOCTOPUSÀSPIRAL SHELLÀBUGÀANTÀHONEYBEE
ÀLADY BEETLEÀFISHÀTROPICAL FISHÀBLOWFISHÀTURTLEÀHATCHING CHICKÀBABY CHICKÀFRONT-FACING BABY CHICK
ÀBIRDÀPENGUINÀKOALAÀPOODLEÀDROMEDARY CAMELÀBACTRIAN CAMELÀDOLPHINÀMOUSE FACEÀCOW FACEÀTIGER FACE
ÀRABBIT FACEÀCAT FACEÀDRAGON FACEÀSPOUTING WHALEÀHORSE FACEÀMONKEY FACEÀDOG FACEÀPIG FACE
ÀFROG FACEÀHAMSTER FACEÀWOLF FACEÀBEAR FACEÀPANDA FACEÁIG NOSEÁAW PRINTSÀCHIPMUNKÀEYESÃÁARÀNOSE
ÀMOUTHÀTONGUEÀuUP POINTING BACKHAND INDEXÆDOWN POINTING BACKHAND INDEXÆpPOINTING BACKHAND INDEX
Æm POINTING BACKHAND INDEXÀFISTED HAND kÀWAVING HAND kÀOK HAND kÀTHUMBS UP kÇDOWN k
ÀCLAPPING HANDS kÀOPEN HANDS kÀCROWNÀWOMANS HATÀEYEGLASSESÀNECKTIEÀT-SHIRTÀJEANSÀDRESSÀKIMONO
ÀBIKINIÀWOMANS CLOTHESÀPURSEÀHANDBAGÀPOUCHÀMANS SHOEÀATHLETIC SHOEÀHIGH-HEELED SHOEÀWOMANS SANDAL
ÇBOOTSÀFOOTPRINTSÀBUST IN SILHOUETTEÄS IN SILHOUETTEÁOYÀGIRLÀMANÀWOMANÀFAMILY
ÀMANfWOMAN HOLDING HANDSÀTWO MEN HOLDING HANDSÄWOMEN HOLDING HANDSÀPOLICE OFFICERÀWOMANaBUNNY EARS
ÀBRIDEaVEILÀPERSONaBLOND HAIRÀMANaGUA PI MAOÉTURBANÀOLDER MANÆWOMANÀBABYÀCONSTRUCTION WORKER
ÀPRINCESSÀJAPANESE OGREÉGOBLINÀGHOSTÀBABY ANGELÀEXTRATERRESTRIAL ALIENÀALIEN MONSTERÀIMPÀSKULL
ÀINFORMATION DESK PERSONÀGUARDSMANÀDANCERÀLIPSTICKÀNAIL POLISHÀFACE MASSAGEÀHAIRCUTÀBARBER POLE
ÀSYRINGEÀPILLÀKISS MARKÀLOVE LETTERÀRINGÀGEM STONEÀKISSÀBOUQUETÀCOUPLEaHEARTÀWEDDINGÀBEATING HEART
ÁROKEN HEARTÀTWO HEARTSÀSPARKLING HEARTÀGROWING HEARTÀHEARTagÀBLUE HEARTÀGREEN HEARTÀYELLOW HEART
ÀPURPLE HEARTÀHEARTaRIBBONÀREVOLVING HEARTSÀHEART DECORATIONÀDIAMOND SHAPEaA DOT INSIDE
ÀELECTRIC LIGHT BULBÀANGER zÀBOMBÀSLEEPING zÀCOLLISION zÀSPLASHING SWEAT zÀDROPLETÁASH z
ÀPILE OF POOÀFLEXED BICEPSÀDIZZY zÀSPEECH BALLOONÀTHOUGHT BALLOONÀuFLOWERÀHUNDRED POINTS z
ÀMONEY BAGÀCURRENCY EXCHANGEÀHEAVY DOLLAR kÀCREDIT CARDÀBANKNOTEaYEN kÎDOLLAR kÎEURO kÎPOUND k
ÀMONEYaWINGSÀCHARTaUPWARDS TRENDfYEN kÀSEATÀPERSONAL COMPUTERÀBRIEFCASEÀMINIDISCÀFLOPPY DISK
ÀOPTICAL DISCÀDVDÀFILE FOLDERÀOPEN FILE FOLDERÀPAGEaCURLÅFACING UPÀCALENDARÀTEAR-OFF CALENDAR
ÀCARD INDEXÁHARTaUPWARDS TRENDËDOWNWARDS TRENDÀBAR CHARTÀCLIPBOARDÀPUSHPINÀROUND PUSHPINÀPAPERCLIP
ÀSTRAIGHT RULERÀTRIANGULAR RULERÀBOOKMARK TABSÀLEDGERÀNOTEBOOKÈaDECORATIVE COVERÀCLOSED BOOK
ÀOPEN BOOKÀGREEN BOOKÀBLUE BOOKÀORANGE BOOKÀBOOKSÀNAME BADGEÀSCROLLÀMEMOÀTELEPHONE RECEIVERÀPAGER
ÀFAX MACHINEÀSATELLITE ANTENNAÀPUBLIC ADDRESS LOUDSPEAKERÀCHEERING MEGAPHONEÀOUTBOX TRAY
ÀINBOX TRAYÀPACKAGEÀE-MAIL zÀINCOMING ENVELOPEÀENVELOPEaDOWNWARDS glÀCLOSED MAILBOXaLOWERED FLAG
ÔRAISED FLAGÀOPEN MAILBOXaRAISED FLAGÒLOWERED FLAGÀPOSTBOXÄAL HORNÀNEWSPAPERÀMOBILE PHONE
Ìajg AT LEFTÀVIBRATION MODEÀMOBILE PHONE OFFÀNO MOBILE PHONESÀANTENNAaBARSÀCAMERAÆaFLASH
ÀVIDEO CAMERAÀTELEVISIONÀRADIOÀVIDEOCASSETTEÀFILM PROJECTORÀPORTABLE STEREOÁRAYER BEADS
ÀTWISTED jgSÀCLOCKWISE mWARDSfrOPEN CIRCLE gSõaCIRCLED ONE OVERLAY
ÊDOWNWARDSfUPWARDS OPEN CIRCLE gSÀANTICLOCKWISE DOWNWARDSfUPWARDS OPEN CIRCLE gSÀLOW BmNESS z
ÀHIGH BmNESS zÀSPEAKERaCANCELLATION wÇÇaONE SOUND WAVEÍTHREE SOUND WAVESÀBATTERYÀELECTRIC PLUG
ÀLEFT-POINTING MAGNIFYING GLASSÀm-POINTING MAGNIFYING GLASSÀLOCKaINK PENÀCLOSED LOCKaKEYÀKEYÀLOCK
ÀOPEN LOCKÀBELLÄaCANCELLATION wÁOOKMARKÀLINK zÀRADIO BUTTONÀBACKarglÀENDargl
ÀONaEXCLAMATION MARKapm glÀSOONajglÀTOPaUPWARDS glÀNO ONE UNDER EIGHTEEN zÀKEYCAP TEN
ÀINPUT z FOR LATIN c LETTERS×d LETTERSÑNUMBERSÑzSÑLATIN LETTERSÀFIREÀELECTRIC TORCHÀWRENCHÀHAMMER
ÀNUTfBOLTÀHOCHOÀPISTOLÀMICROSCOPEÀTELESCOPEÀCRYSTAL BALLÀSIX POINTED STARaMIDDLE DOT
ÀJAPANESE z FOR BEGINNERÀTRIDENT EMBLEMÀxSQUARE BUTTONÀuSQUARE BUTTONÀLARGE RED CIRCLEÆBLUE CIRCLE
ÆORANGE DIAMONDÆBLUE DIAMONDÀd ORANGE DIAMONDÆBLUE DIAMONDÀUP-POINTING RED TRIANGLE
ÀDOWN-POINTING RED TRIANGLEÀUP-POINTING d RED TRIANGLEÀDOWN-POINTING d RED TRIANGLE
ÀLOWER m SHADOWED uCIRCLEÀUPPER m SHADOWED uCIRCLEÀCIRCLED CROSS POMMEEÁROSS POMMEEaHALF-CIRCLEoÌ
ÀNOTCHED pSEMICIRCLEaTHREE DOTSÈm SEMICIRCLEaTHREE DOTSÀz FOR MARKS CHAPTERÀuLATIN CROSS
ÀHEAVY LATIN CROSSÀCELTIC CROSSÀOM zÀDOVE OF PEACEÀKAABAÀMOSQUEÀSYNAGOGUEÀMENORAHaNINE BRANCHES
ÀBOWL OF HYGIEIAÀCLOCK FACE ONE OCLOCKËTWO OCLOCKÌHREE OCLOCKËFOUR OCLOCKÌIVE OCLOCKËSIX OCLOCK
ÌEVEN OCLOCKËEIGHT OCLOCKËNINE OCLOCKËTEN OCLOCKËELEVEN OCLOCKËTWELVE OCLOCKËONE-THIRTYËTWO-THIRTY
ÌHREE-THIRTYËFOUR-THIRTYÌIVE-THIRTYËSIX-THIRTYÌEVEN-THIRTYËEIGHT-THIRTYËNINE-THIRTYËTEN-THIRTY
ËELEVEN-THIRTYËTWELVE-THIRTYÀm SPEAKERÍaONE SOUND WAVEÓTHREE SOUND WAVESÀBULLHORNÈaSOUND WAVES
ÀRINGING BELLÀBOOKÀCANDLEÀMANTELPIECE CLOCKÀxSKULLfCROSSBONESÀNO PIRACYÀHOLE
ÀMAN IN BUSINESS SUIT LEVITATINGÀSLEUTH OR SPYÀDARK SUNGLASSESÀSPIDERÆ WEBÀJOYSTICKÀMAN DANCING
ÀpHAND TELEPHONE RECEIVERÀTELEPHONE RECEIVERaPAGEÀm HAND TELEPHONE RECEIVERÀuTOUCHTONE TELEPHONE
ÀxTOUCHTONE TELEPHONEÀTELEPHONE ON TOP OF MODEMÀCLAMSHELL MOBILE PHONEÀBACK OF ENVELOPE
ÀSTAMPED ENVELOPEÀENVELOPEaLIGHTNINGÀFLYING ENVELOPEÀPEN OVER STAMPED ENVELOPEÀLINKED PAPERCLIPS
ÀxPUSHPINÀLOWER pPENCILËBALLPOINT PENËFOUNTAIN PENËPAINTBRUSHËCRAYONÁEFT WRITING HAND
ÀTURNED OK HAND kÀRAISED HANDaFINGERS SPLAYEDÁEVERSED RAISED HANDaFINGERS SPLAYEDÉTHUMBS UP k
ÐDOWN kÉVICTORY HANDÉHANDaMIDDLE FINGER EXTENDEDÁAISED HANDaPART BETWEEN MIDDLEfRING FINGERS
ÀuDOWN POINTING pHAND INDEXÀSIDEWAYS upPOINTING INDEXÏm POINTING INDEXÉxpPOINTING INDEX
Ïm POINTING INDEXÀxpPOINTING BACKHAND INDEXÆm POINTING BACKHAND INDEXÀSIDEWAYS uUP POINTING INDEX
ÏDOWN POINTING INDEXÉxUP POINTING INDEXÏDOWN POINTING INDEXÀxUP POINTING BACKHAND INDEX
ÆDOWN POINTING BACKHAND INDEXÆHEARTÀDESKTOP COMPUTERÀKEYBOARDfMOUSEÀTHREE NETWORKED COMPUTERS
ÀPRINTERÁOCKET CALCULATORÀxHARD SHELL FLOPPY DISKÀuHARD SHELL FLOPPY DISKÀSOFT SHELL FLOPPY DISK
ÀTAPE CARTRIDGEÀWIRED KEYBOARDÀONE BUTTON MOUSEÀTWO BUTTON MOUSEÁHREE BUTTON MOUSEÁRACKBALL
ÀOLD PERSONAL COMPUTERÀHARD DISKÀSCREENÀPRINTER ICONÀFAX ICONÀOPTICAL DISC ICONÀDOCUMENTaTEXT
ÒfPICTUREÎPICTUREÀFRAMEaPICTUREËTILESËAN XÀxFOLDERÀFOLDERÀOPEN FOLDERÀCARD INDEX DIVIDERSÅFILE BOX
ÀFILE CABINETÀEMPTY NOTEÊ PAGEÍDÀNOTEÄ PAGEÇDÀEMPTY DOCUMENTÆPAGEÊSÀDOCUMENTÀPAGEÄSÀWASTEBASKET
ÀSPIRAL NOTE PADÇCALENDAR PADÀDESKTOP WINDOWÀMINIMIZEÁAXIMIZEÀOVERLAPÀCLOCKWISE mfpSEMICIRCLE gS
ÁANCELLATION XÀINCREASE FONT SIZE zÀDECREASE FONT SIZE zÀCOMPRESSIONÀOLD KEYÀROLLED-UP NEWSPAPER
ÀPAGEaCIRCLED TEXTÀSTOCK CHARTÀDAGGER KNIFEÀLIPSÀSPEAKING HEAD IN SILHOUETTEÀTHREE RAYSlËBELOW
ËLEFTËmÀpSPEECH BUBBLEÀm SPEECH BUBBLEÀTWO SPEECH BUBBLESÁHREE SPEECH BUBBLESÀpTHOUGHT BUBBLE
Àm THOUGHT BUBBLEÀpANGER BUBBLEÀm ANGER BUBBLEÀMOOD BUBBLEÀLIGHTNING MOOD BUBBLEÎ
ÀBALLOT BOXaBALLOTÇSCRIPT XÇBOXaSCRIPT XÉLD SCRIPT XÉXaBOLD SCRIPT XÀLIGHT CHECK MARK
ÀBALLOT BOXaBOLD CHECKÀWORLD MAPÀMOUNT FUJIÀTOKYO TOWERÀSTATUE OF LIBERTYÁILHOUETTE OF JAPANÀMOYAI
ÀGRINNING FACEÍaSMILING EYESÀFACEaTEARS OF JOYÀSMILING FACEaOPEN MOUTHÜfSMILING EYESáCOLD SWEAT
áTIGHTLY-CLOSED EYESÒHALOÓORNSÀWINKING FACEÀSMILING FACEaSMILING EYES
ÀFACE SAVOURING DELICIOUS FOODÀRELIEVED FACEÀSMILING FACEaHEART-SHAPED EYESÒSUNGLASSESÃRKING FACE
ÀNEUTRAL FACEÀEXPRESSIONLESS FACEÀUNAMUSED FACEÀFACEaCOLD SWEATÀPENSIVE FACEÀCONFUSED FACE
ÄOUNDED FACEÀKISSING FACEÀFACE THROWING A KISSÀKISSING FACEaSMILING EYESÒCLOSED EYES
ÀFACEaSTUCK-OUT TONGUEÚfWINKING EYEßTIGHTLY-CLOSED EYESÀDISAPPOINTED FACEÀWORRIED FACEÀANGRY FACE
ÀPOUTING FACEÀCRYING FACEÀPERSEVERING FACEÀFACEaLOOK OF TRIUMPHÀDISAPPOINTED BUT RELIEVED FACE
ÀFROWNING FACEaOPEN MOUTHÀANGUISHED FACEÀFEARFUL FACEÀWEARY FACEÀSLEEPY FACEÀTIRED FACE
ÀGRIMACING FACEÀLOUDLY CRYING FACEÀFACEaOPEN MOUTHÀHUSHED FACEÀFACEaOPEN MOUTHfCOLD SWEAT
ÅSCREAMING IN FEARÀASTONISHED FACEÀFLUSHED FACEÀSLEEPING FACEÀDIZZY FACEÀFACE WITHOUT MOUTH
É MEDICAL MASKÀGRINNING CAT FACEaSMILING EYESÀCAT FACEaTEARS OF JOYÀSMILING CAT FACEaOPEN MOUTH
ÖHEART-SHAPED EYESÀCAT FACEaWRY SMILEÀKISSING CAT FACEaCLOSED EYESÀPOUTING CAT FACE
ÀCRYING CAT FACEÀWEARY CAT FACEÀSLIGHTLY FROWNING FACEÉSMILING FACEÀUPSIDE-DOWN FACE
ÀFACEaROLLING EYESÊNO GOOD GESTUREÊOK GESTUREÀPERSON BOWING DEEPLYÀSEE-NO-EVIL MONKEY
ÀHEAR-NO-EVIL MONKEYÀSPEAK-NO-EVIL MONKEYÀHAPPY PERSON RAISING ONE HAND
ÀPERSON RAISING BOTH HANDS IN CELEBRATIONÇFROWNINGÇWITH POUTING FACEÌFOLDED HANDS
ÀNORTH WEST POINTING LEAFÀSOUTH WEST POINTING LEAFÀNORTH EAST POINTING LEAF
ÀSOUTH EAST POINTING LEAFÀTURNED NORTH WEST POINTING LEAFÇSOUTH WEST POINTING LEAF
ÇNORTH EAST POINTING LEAFÇSOUTH EAST POINTING LEAFÀNORTH WEST POINTING VINE LEAF
ÀSOUTH WEST POINTING VINE LEAFÀNORTH EAST POINTING VINE LEAFÀSOUTH EAST POINTING VINE LEAF
ÀHEAVY NORTH WEST POINTING VINE LEAFÆSOUTH WEST POINTING VINE LEAFÆNORTH EAST POINTING VINE LEAF
ÆSOUTH EAST POINTING VINE LEAFÀNORTH WEST POINTING BUDÀSOUTH WEST POINTING BUD
ÀNORTH EAST POINTING BUDÀSOUTH EAST POINTING BUDÀHEAVY NORTH WEST POINTING BUD
ÆSOUTH WEST POINTING BUDÆNORTH EAST POINTING BUDÆSOUTH EAST POINTING BUD
ÁOLLOW QUILT SQUARE ORNAMENTÜ IN xSQUAREÀSOLID QUILT SQUARE ORNAMENTÛ IN xSQUAREÀrROCKET
ÀUPWARDS ROCKETÀjROCKETÀDOWNWARDS ROCKETÀSCRIPT LIGATURE ET ORNAMENT
ÀHEAVY SCRIPT LIGATURE ET ORNAMENTÀLIGATURE OPEN ET ORNAMENTÀHEAVY LIGATURE OPEN ET ORNAMENT
ÆAMPERSAND ORNAMENTÀSWASH AMPERSAND ORNAMENTÁANS-SERIF HEAVY nTURNED COMMA QUOTATION MARK ORNAMENT
ØCOMMA QUOTATION MARK ORNAMENTÑLOW nCOMMA QUOTATION MARK ORNAMENTÀHEAVY INTERROBANG ORNAMENT
ÀSANS-SERIF INTERROBANG ORNAMENTÀHEAVY SANS-SERIF INTERROBANG ORNAMENTÀVERY HEAVY SOLIDUS
ËREVERSE SOLIDUSÀCHECKER BOARDÀREVERSE CHECKER BOARDÁOCKETÀHELICOPTERÀSTEAM LOCOMOTIVEÀRAILWAY CAR
ÀHIGH-SPEED TRAINÐaBULLET NOSEÀTRAINÀMETROÀLIGHT RAILÀSTATIONÀTRAMÄ CARÀBUSÀONCOMING BUS
ÀTROLLEYBUSÀBUS STOPÀMINIBUSÀAMBULANCEÀFIRE ENGINEÀPOLICE CARÀONCOMING POLICE CARÀTAXI
ÀONCOMING TAXIÀAUTOMOBILEÀONCOMING AUTOMOBILEÀRECREATIONAL VEHICLEÀDELIVERY TRUCK
ÀARTICULATED LORRYÀTRACTORÀMONORAILÂUNTAIN RAILWAYÀSUSPENSION RAILWAYÀMOUNTAIN CABLEWAY
ÀAERIAL TRAMWAYÀSHIPÀROWBOATÀSPEEDBOATÀHORIZONTAL TRAFFIC LIGHTÀt TRAFFIC LIGHTÀCONSTRUCTION k
ÀPOLICE CARS REVOLVING LIGHTÀTRIANGULAR FLAG ON POSTÀDOORÀNO ENTRY kÀSMOKING zÀNO SMOKING z
ÀPUT LITTER IN ITS PLACE zÀDO NOT LITTER zÀPOTABLE WATER zÀNON-POTABLE WATER zÀBICYCLEÀNO BICYCLES
ÀBICYCLISTÀMOUNTAIN BICYCLISTÀPEDESTRIANÀNO PEDESTRIANSÀCHILDREN CROSSINGÀMENS zÀWOMENS zÀRESTROOM
ÀBABY zÀTOILETÀWATER CLOSETÀSHOWERÀBATHÄTUBÀPASSPORT CONTROLÀCUSTOMSÀBAGGAGE CLAIMÀpLUGGAGE
ÀTRIANGLEaROUNDED CORNERSÀPROHIBITED kÀCIRCLED INFORMATION SOURCEÀBOYS zÀGIRLS zÀCOUCHfLAMP
ÀSLEEPING ACCOMMODATIONÁHOPPING BAGSÀBELLHOP BELLÂDÀPLACE OF WORSHIPÀOCTAGONAL kÀSHOPPING TROLLEY
ÁTUPAÀPAGODAÀHINDU TEMPLEÁUTÀELEVATOR=1f6ddÀPLAYGROUND SLIDEÀWHEELÀRING BUOYÀHAMMERfWRENCHÀSHIELD
ÀOIL DRUMÀMOTORWAYÀRAILWAY TRACKÀMOTOR BOATÀUP-POINTING MILITARY AIRPLANEÌAIRPLANEÌd AIRPLANE
Àd AIRPLANEÀNORTHEAST-POINTING AIRPLANEÀAIRPLANE DEPARTUREÉARRIVING=1f6f0ÀSATELLITE
ÀONCOMING FIRE ENGINEÀDIESEL LOCOMOTIVEÀPASSENGER SHIPÀSCOOTERÀMOTOR SCOOTERÀCANOEÀSLED
ÀFLYING SAUCERÀSKATEBOARDÀAUTO RICKSHAWÀPICKUP TRUCKÀROLLER SKATE
=1f700ÀALCHEMICAL z FOR QUINTESSENCEÖAIRÖFIREÖEARTHÖWATERÖAQUAFORTISÚ REGIAà-2ÛVITAEà-2ÖVINEGARÝ-2
Þ3ÖSULFURÖPHILOSOPHERS SULFURÖxSULFURÖMERCURY SUBLIMATEç-2è3ÖCINNABARÖSALTÖNITREÖVITRIOLÝ-2
ÖROCK SALTß-2ÖGOLDÖSILVERÖIRON OREÞ-2ÖCROCUS OF IRONÖREGULUS OF IRONÖCOPPER OREÖIRON-COPPER ORE
ÖSUBLIMATE OF COPPERÖCROCUS OF COPPERæ-2×OPPER ANTIMONIATEÖSALT OF COPPER ANTIMONIATE
×UBLIMATE OF SALT OF COPPERÖVERDIGRISÖTIN OREÖLEAD OREÖANTIMONY OREÖSUBLIMATE OF ANTIMONY
×ALT OF ANTIMONY×UBLIMATE OF SALT OF ANTIMONYÖVINEGAR OF ANTIMONYÖREGULUS OF ANTIMONYé-2ÝÝ-2Þ3Þ4
ÖALKALIÜ-2ÖMARCASITEÖSAL-AMMONIACÖARSENICÖREALGARÝ-2ÖAURIPIGMENTÖBISMUTH OREÖTARTARÜ-2ÖQUICK LIME
ÖBORAXÛ-2Ü3ÖALUMÖOILÖSPIRITÖTINCTUREÖGUMÖWAXÖPOWDERÖCALXÖTUTTYÖCAPUT MORTUUMÖSCEPTER OF JOVE
ÖCADUCEUSÖTRIDENTÖSTARRED TRIDENTÖLODESTONEÖSOAPÖURINEÖHORSE DUNGÖASHESÖPOT ASHESÖBRICK
ÖPOWDERED BRICKÖAMALGAMÖSTRATUM SUPER STRATUMë-2×UBLIMATIONÖPRECIPITATEÖDISTILLÙSOLVEÞ-2ÖPURIFY
ØTREFACTIONÖCRUCIBLEÞ-2ß3ß4ß5ÖALEMBICÖBATH OF MARYÞVAPOURSÖRETORTÖHOURÖNIGHTÖDAY-NIGHTÖMONTH
ÖHALF DRAMÛOUNCE=1f780ÀxLEFT-POINTING ISOSCELES m TRIANGLEÆUP-POINTING ISOSCELES m TRIANGLE
Æm-POINTING ISOSCELES m TRIANGLEÆDOWN-POINTING ISOSCELES m TRIANGLEÆSLIGHTLY d CIRCLE
ÀMEDIUM BOLD uCIRCLEÀBOLD uCIRCLEÀHEAVY uCIRCLEÀVERY HEAVY uCIRCLEÀEXTREMELY HEAVY uCIRCLE
ÀuCIRCLE CONTAINING xd CIRCLEÀROUND TARGETÀxTINY SQUAREÆSLIGHTLY d SQUAREÀLIGHT uSQUARE
ÀMEDIUM uSQUAREÀBOLD uSQUAREÀHEAVY uSQUAREÀVERY HEAVY uSQUAREÀEXTREMELY HEAVY uSQUARE
ÀuSQUARE CONTAINING xVERY d SQUAREÞMEDIUM SQUAREÀSQUARE TARGETÀxTINY DIAMONDÆVERY d DIAMOND
ÆMEDIUM d DIAMONDÀuDIAMOND CONTAINING xVERY d DIAMONDßMEDIUM DIAMONDÀDIAMOND TARGETÀxTINY LOZENGE
ÆVERY d LOZENGEÆMEDIUM d LOZENGEÀuLOZENGE CONTAINING xd LOZENGEÀTHIN GREEK CROSSÀLIGHT GREEK CROSS
ÀMEDIUM GREEK CROSSÀBOLD GREEK CROSSÀVERY BOLD GREEK CROSSÅHEAVY GREEK CROSS
ÀEXTREMELY HEAVY GREEK CROSSÀTHIN SALTIREÀLIGHT SALTIREÀMEDIUM SALTIREÀBOLD SALTIREÀHEAVY SALTIRE
ÀVERY HEAVY SALTIREÀEXTREMELY HEAVY SALTIREÀLIGHT FIVE SPOKED ASTERISKÀMEDIUM FIVE SPOKED ASTERISK
ÀBOLD FIVE SPOKED ASTERISKÀHEAVY FIVE SPOKED ASTERISKÀVERY HEAVY FIVE SPOKED ASTERISK
ÀEXTREMELY HEAVY FIVE SPOKED ASTERISKÀLIGHT SIX SPOKED ASTERISKÀMEDIUM SIX SPOKED ASTERISK
ÀBOLD SIX SPOKED ASTERISKÀHEAVY SIX SPOKED ASTERISKÀVERY HEAVY SIX SPOKED ASTERISK
ÀEXTREMELY HEAVY SIX SPOKED ASTERISKÀLIGHT EIGHT SPOKED ASTERISKÀMEDIUM EIGHT SPOKED ASTERISK
ÀBOLD EIGHT SPOKED ASTERISKÀHEAVY EIGHT SPOKED ASTERISKÀVERY HEAVY EIGHT SPOKED ASTERISK
ÀLIGHT THREE POINTED xSTARÀMEDIUM THREE POINTED xSTARÀTHREE POINTED xSTAR
ÀMEDIUM THREE POINTED PINWHEEL STARÀLIGHT FOUR POINTED xSTARÀMEDIUM FOUR POINTED xSTAR
ÀFOUR POINTED xSTARÀMEDIUM FOUR POINTED PINWHEEL STARÀREVERSE LIGHT FOUR POINTED PINWHEEL STAR
ÀLIGHT FIVE POINTED xSTARÀHEAVY FIVE POINTED xSTARÀMEDIUM SIX POINTED xSTAR
ÀHEAVY SIX POINTED xSTARÀSIX POINTED PINWHEEL STARÀMEDIUM EIGHT POINTED xSTAR
ÀHEAVY EIGHT POINTED xSTARÀVERY HEAVY EIGHT POINTED xSTARÀHEAVY EIGHT POINTED PINWHEEL STAR
ÀLIGHT TWELVE POINTED xSTARÀHEAVY TWELVE POINTED xSTARÕPINWHEEL STARÀCIRCLED TRIANGLE
ÀNEGATIVE CIRCLED TRIANGLEÀCIRCLED SQUAREÀNEGATIVE CIRCLED SQUARE=1f7e0ÀLARGE ORANGE CIRCLE
ÆYELLOW CIRCLEÆGREEN CIRCLEÆPURPLE CIRCLEÆBROWN CIRCLEÆRED SQUAREÆBLUE SQUAREÆORANGE SQUARE
ÆYELLOW SQUAREÆGREEN SQUAREÆPURPLE SQUAREÆBROWN SQUARE=1f7f0ÀHEAVY EQUALS k
=1f800Àrgad TRIANGLE gHEADÀUPWARDS gad TRIANGLE gHEADÀjgad TRIANGLE gHEAD
ÀDOWNWARDS gad TRIANGLE gHEADÀrgaMEDIUM TRIANGLE gHEADÀUPWARDS gaMEDIUM TRIANGLE gHEAD
ÀjgaMEDIUM TRIANGLE gHEADÀDOWNWARDS gaMEDIUM TRIANGLE gHEADÀrgaLARGE TRIANGLE gHEAD
ÀUPWARDS gaLARGE TRIANGLE gHEADÀjgaLARGE TRIANGLE gHEADÀDOWNWARDS gaLARGE TRIANGLE gHEAD
=1f810Àrgad EQUILATERAL gHEADÀUPWARDS gad EQUILATERAL gHEADÀjgad EQUILATERAL gHEAD
ÀDOWNWARDS gad EQUILATERAL gHEADÀrgaEQUILATERAL gHEADÀUPWARDS gaEQUILATERAL gHEAD
ÀjgaEQUILATERAL gHEADÀDOWNWARDS gaEQUILATERAL gHEADÀHEAVY rgaEQUILATERAL gHEAD
ÆUPWARDS gaEQUILATERAL gHEADÆjgaEQUILATERAL gHEADÆDOWNWARDS gaEQUILATERAL gHEAD
ÆrgaLARGE EQUILATERAL gHEADÆUPWARDS gaLARGE EQUILATERAL gHEADÆjgaLARGE EQUILATERAL gHEAD
ÆDOWNWARDS gaLARGE EQUILATERAL gHEADÀrqgaNg SHAFTÀUPWARDS qgaNg SHAFTÀjqgaNg SHAFT
ÀDOWNWARDS qgaNg SHAFTÀrqgaMEDIUM SHAFTÀUPWARDS qgaMEDIUM SHAFTÀjqgaMEDIUM SHAFT
ÀDOWNWARDS qgaMEDIUM SHAFTÀrqgaBOLD SHAFTÀUPWARDS qgaBOLD SHAFTÀjqgaBOLD SHAFT
ÀDOWNWARDS qgaBOLD SHAFTÀrqgaHEAVY SHAFTÀUPWARDS qgaHEAVY SHAFTÀjqgaHEAVY SHAFT
ÀDOWNWARDS qgaHEAVY SHAFTÀrqgaVERY HEAVY SHAFTÀUPWARDS qgaVERY HEAVY SHAFTÀjqgaVERY HEAVY SHAFT
ÀDOWNWARDS qgaVERY HEAVY SHAFTÀrFINGER-POST gÀUPWARDS FINGER-POST gÀjFINGER-POST g
ÀDOWNWARDS FINGER-POST gÀrSQUARED gÀUPWARDS SQUARED gÀjSQUARED gÀDOWNWARDS SQUARED gÀrCOMPRESSED g
ÀUPWARDS COMPRESSED gÀjCOMPRESSED gÀDOWNWARDS COMPRESSED gÀrHEAVY COMPRESSED g
ÀUPWARDS HEAVY COMPRESSED gÀjHEAVY COMPRESSED gÀDOWNWARDS HEAVY COMPRESSED gÀrHEAVY g
ÀUPWARDS HEAVY gÀjHEAVY gÀDOWNWARDS HEAVY g=1f850ÀrSANS-SERIF gÀUPWARDS SANS-SERIF gÀjSANS-SERIF g
ÀDOWNWARDS SANS-SERIF gÀNORTH WEST SANS-SERIF gÆEAST SANS-SERIF gÀSOUTH EAST SANS-SERIF g
ÆWEST SANS-SERIF gÀpm SANS-SERIF gÀUP DOWN SANS-SERIF g=1f860ÀWIDE-HEADED rLIGHT BARB g
ÌUPWARDS LIGHT BARB gÌjLIGHT BARB gÌDOWNWARDS LIGHT BARB gÌNORTH WEST LIGHT BARB g
ÒEAST LIGHT BARB gÌSOUTH EAST LIGHT BARB gÒWEST LIGHT BARB gÌrBARB gÌUPWARDS BARB gÌjBARB g
ÌDOWNWARDS BARB gÌNORTH WEST BARB gÒEAST BARB gÌSOUTH EAST BARB gÒWEST BARB gÌrMEDIUM BARB g
ÌUPWARDS MEDIUM BARB gÌjMEDIUM BARB gÌDOWNWARDS MEDIUM BARB gÌNORTH WEST MEDIUM BARB g
ÒEAST MEDIUM BARB gÌSOUTH EAST MEDIUM BARB gÒWEST MEDIUM BARB gÌrHEAVY BARB gÌUPWARDS HEAVY BARB g
ÌjHEAVY BARB gÌDOWNWARDS HEAVY BARB gÌNORTH WEST HEAVY BARB gÒEAST HEAVY BARB g
ÌSOUTH EAST HEAVY BARB gÒWEST HEAVY BARB gÌrVERY HEAVY BARB gÌUPWARDS VERY HEAVY BARB g
ÌjVERY HEAVY BARB gÌDOWNWARDS VERY HEAVY BARB gÌNORTH WEST VERY HEAVY BARB g
ÒEAST VERY HEAVY BARB gÌSOUTH EAST VERY HEAVY BARB gÒWEST VERY HEAVY BARB g=1f890ÀrTRIANGLE gHEAD
ÀUPWARDS TRIANGLE gHEADÀjTRIANGLE gHEADÀDOWNWARDS TRIANGLE gHEADÀrug WITHIN TRIANGLE gHEAD
ÀUPWARDS ug WITHIN TRIANGLE gHEADÀjug WITHIN TRIANGLE gHEADÀDOWNWARDS ug WITHIN TRIANGLE gHEAD
ÀrgaNOTCHED TAILÀUPWARDS gaNOTCHED TAILÀjgaNOTCHED TAILÀDOWNWARDS gaNOTCHED TAIL
ÀHEAVY g SHAFT WIDTH ONEØTWO THIRDSØONE HALFÜTHIRDÀrBOTTOM-SHADED ugÀjBOTTOM SHADED ug
ÀrTOP SHADED ugÀjTOP SHADED ugÀrLEFT-SHADED ugÀjm-SHADED ugÀrm-SHADED ugÀjLEFT-SHADED ug
ÀrBACK-TILTED SHADOWED ugÀjBACK-TILTED SHADOWED ugÀrFRONT-TILTED SHADOWED ug
ÀjFRONT-TILTED SHADOWED ugÀug SHAFT WIDTH ONEØTWO THIRDS=1f8b0Àg POINTING UPWARDS THEN NORTH WEST
ÏjTHEN CURVING SOUTH WEST=1f900ÀCIRCLED CROSS FORMEEaFOUR DOTSÚTWO DOTSÔÀpHALF CIRCLEaFOUR DOTS
ÖTHREE DOTS×WO DOTSÖDOTÐÀDOWNWARD FACING HOOKÐNOTCHED HOOKÐHOOKaDOTÐNOTCHED HOOKaDOT
ÀPINCHED FINGERSÀuHEARTÀBROWN HEARTÀPINCHING HANDÀZIPPER-MOUTH FACEÀMONEY-MOUTH FACE
ÀFACEaTHERMOMETERÀNERD FACEÀTHINKING FACEÀFACEaHEAD-BANDAGEÀROBOT FACEÀHUGGING FACEÀk OF THE HORNS
ÀCALL ME HANDÀRAISED BACK OF HANDÀLEFT-FACING FISTÀm-FACING FISTÀHANDSHAKE
ÄaINDEXfMIDDLE FINGERS CROSSEDÀI LOVE YOU HAND kÀFACEaCOWBOY HATÀCLOWN FACEÀNAUSEATED FACE
ÀROLLING ON THE FLOOR LAUGHINGÀDROOLING FACEÀLYING FACEÀFACE PALMÀSNEEZING FACE
ÀFACEaONE EYEBROW RAISEDÀGRINNING FACEaSTAR EYESÓONE LARGEfONE d EYE
ÀFACEaFINGER COVERING CLOSED LIPSÀSERIOUS FACEazS COVERING MOUTH
ÁMILING FACEaSMILING EYESfHAND COVERING MOUTHÀFACEaOPEN MOUTH VOMITINGÀSHOCKED FACEaEXPLODING HEAD
ÀPREGNANT WOMANÀBREAST-FEEDINGÀPALMS UP TOGETHERÀSELFIEÀPRINCEÀMAN IN TUXEDOÁOTHER CHRISTMASÀSHRUG
ÀPERSON DOING CARTWHEELÀJUGGLINGÀFENCERÀMODERN PENTATHLONÀWRESTLERSÁATER POLOÀHANDBALLÀDIVING MASK
ÀWILTED FLOWERÀDRUMaDRUMSTICKSÀCLINKING GLASSESÀTUMBLER GLASSÀSPOONÀGOAL NETÀRIFLE
ÀFIRST PLACE MEDALÀSECOND PLACE MEDALÀTHIRD PLACE MEDALÀBOXING GLOVEÀMARTIAL ARTS UNIFORM
ÀCURLING STONEÀLACROSSE STICKfBALLÀSOFTBALLÀFLYING DISCÀCROISSANTÀAVOCADOÀCUCUMBERÀBACONÀPOTATO
ÀCARROTÀBAGUETTE BREADÀGREEN SALADÀSHALLOW PAN OF FOODÁTUFFED FLATBREADÀEGGÀGLASS OF MILKÀPEANUTS
ÀKIWIFRUITÀPANCAKESÀDUMPLINGÀFORTUNE COOKIEÀTAKEOUT BOXÀCHOPSTICKSÀBOWLaSPOONÀCUPaSTRAWÁOCONUT
ÀBROCCOLIÀPIEÁRETZELÀCUT OF MEATÀSANDWICHÀCANNED FOODÀLEAFY GREENÀMANGOÁOON CAKEÀBAGEL
ÀSMILING FACEaSMILING EYESfTHREE HEARTSÀYAWNING FACEÀSMILING FACEaTEARÀFACEaPARTY HORNfPARTY HAT
ÊUNEVEN EYESfWAVY MOUTHÀOVERHEATED FACEÀFREEZING FACEÀNINJAÀDISGUISED FACEÀFACE HOLDING BACK TEARS
ÅWITH PLEADING EYESÀSARIÀLAB COATÀGOGGLESÀHIKING BOOTÀFLAT SHOEÀCRABÀLION FACEÀSCORPIONÀTURKEY
ÀUNICORN FACEÀEAGLEÀDUCKÀBATÀSHARKÀOWLÀFOX FACEÀBUTTERFLYÀDEERÀGORILLAÀLIZARDÀRHINOCEROSÀSHRIMP
ÁQUIDÀGIRAFFE FACEÀZEBRA FACEÀHEDGEHOGÀSAUROPODÀT-REXÀCRICKETÀKANGAROOÀLLAMAÀPEACOCKÀHIPPOPOTAMUS
ÀPARROTÀRACCOONÀLOBSTERÀMOSQUITOÁICROBEÀBADGERÀSWANÀMAMMOTHÀDODOÀSLOTHÀOTTERÁRANGUTANÀSKUNK
ÀFLAMINGOÀOYSTERÀBEAVERÁISONÀSEALÀGUIDE DOGÀPROBING CANEÀEMOJI COMPONENT RED HAIRÐCURLY HAIRÐBALD
ÐuHAIRÀBONEÀLEGÀFOOTÀTOOTHÀSUPERHEROÅVILLAINÁAFETY VESTÀEARaHEARING AIDÀMOTORIZED WHEELCHAIR
ÁANUAL WHEELCHAIRÁECHANICAL ARMËLEGÀCHEESE WEDGEÁUPCAKEÀSALT SHAKERÀBEVERAGE BOXÀGARLICÀONION
ÀFALAFELÀWAFFLEÀBUTTERÀMATE DRINKÀICE CUBEÀBUBBLE TEAÀTROLLÀSTANDING PERSONÀKNEELING PERSON
ÀDEAF PERSONÀFACEaMONOCLEÀADULTÀCHILDÀOLDER ADULTÀBEARDED PERSONÀPERSONaHEADSCARFÇIN STEAMY ROOM
ÇCLIMBINGÇIN LOTUS POSITIONÀMAGEÀFAIRYÀVAMPIREÀMERPERSONÀELFÀGENIEÀZOMBIEÀBRAINÀORANGE HEART
ÀBILLED CAPÀSCARFÀGLOVESÀCOATÀSOCKSÀRED GIFT ENVELOPEÀFIRECRACKERÀJIGSAW PUZZLE PIECEÀTEST TUBE
ÀPETRI DISHÀDNA nHELIXÀCOMPASSÀABACUSÀFIRE EXTINGUISHERÀTOOLBOXÀBRICKÀMAGNETÀLUGGAGEÁOTION BOTTLE
ÀSPOOL OF THREADÀBALL OF YARNÀSAFETY PINÀTEDDY BEARÀBROOMÁASKETÀROLL OF PAPERÀBAR OF SOAPÀSPONGE
ÀRECEIPTÀNAZAR AMULETÁEUTRAL CHESS KINGÎQUEENÎROOKÎBISHOPÎKNIGHTÎPAWN
ÀuCHESS KNIGHT ROTATED FORTY-FIVE DEGREESÀxCHESS KNIGHT ROTATED FORTY-FIVE DEGREES
ÀNEUTRAL CHESS KNIGHT ROTATED FORTY-FIVE DEGREESÀuCHESS KING ROTATED NINETY DEGREES
ÌQUEEN ROTATED NINETY DEGREESÌROOK ROTATED NINETY DEGREESÌBISHOP ROTATED NINETY DEGREES
ÌKNIGHT ROTATED NINETY DEGREESÌPAWN ROTATED NINETY DEGREESÀxCHESS KING ROTATED NINETY DEGREES
ÌQUEEN ROTATED NINETY DEGREESÌROOK ROTATED NINETY DEGREESÌBISHOP ROTATED NINETY DEGREES
ÌKNIGHT ROTATED NINETY DEGREESÌPAWN ROTATED NINETY DEGREES
ÀNEUTRAL CHESS KING ROTATED NINETY DEGREESÎQUEEN ROTATED NINETY DEGREES
ÎROOK ROTATED NINETY DEGREESÎBISHOP ROTATED NINETY DEGREESÎKNIGHT ROTATED NINETY DEGREES
ÎPAWN ROTATED NINETY DEGREESÀuCHESS KNIGHT ROTATED ONE HUNDRED THIRTY-FIVE DEGREES
ÀxCHESS KNIGHT ROTATED ONE HUNDRED THIRTY-FIVE DEGREES
ÀNEUTRAL CHESS KNIGHT ROTATED ONE HUNDRED THIRTY-FIVE DEGREESÀuCHESS TURNED KINGÓQUEENÓROOKÓBISHOP
ÓKNIGHTÓPAWNÀxCHESS TURNED KINGÓQUEENÓROOKÓBISHOPÓKNIGHTÓPAWNÀNEUTRAL CHESS TURNED KINGÕQUEENÕROOK
ÕBISHOPÕKNIGHTÕPAWNÀuCHESS KNIGHT ROTATED TWO HUNDRED TWENTY-FIVE DEGREES
ÀxCHESS KNIGHT ROTATED TWO HUNDRED TWENTY-FIVE DEGREES
ÀNEUTRAL CHESS KNIGHT ROTATED TWO HUNDRED TWENTY-FIVE DEGREES
ÀuCHESS KING ROTATED TWO HUNDRED SEVENTY DEGREESÌQUEEN ROTATED TWO HUNDRED SEVENTY DEGREES
ÌROOK ROTATED TWO HUNDRED SEVENTY DEGREESÌBISHOP ROTATED TWO HUNDRED SEVENTY DEGREES
ÌKNIGHT ROTATED TWO HUNDRED SEVENTY DEGREESÌPAWN ROTATED TWO HUNDRED SEVENTY DEGREES
ÀxCHESS KING ROTATED TWO HUNDRED SEVENTY DEGREESÌQUEEN ROTATED TWO HUNDRED SEVENTY DEGREES
ÌROOK ROTATED TWO HUNDRED SEVENTY DEGREESÌBISHOP ROTATED TWO HUNDRED SEVENTY DEGREES
ÌKNIGHT ROTATED TWO HUNDRED SEVENTY DEGREESÌPAWN ROTATED TWO HUNDRED SEVENTY DEGREES
ÀNEUTRAL CHESS KING ROTATED TWO HUNDRED SEVENTY DEGREESÎQUEEN ROTATED TWO HUNDRED SEVENTY DEGREES
ÎROOK ROTATED TWO HUNDRED SEVENTY DEGREESÎBISHOP ROTATED TWO HUNDRED SEVENTY DEGREES
ÎKNIGHT ROTATED TWO HUNDRED SEVENTY DEGREESÎPAWN ROTATED TWO HUNDRED SEVENTY DEGREES
ÀuCHESS KNIGHT ROTATED THREE HUNDRED FIFTEEN DEGREES
ÀxCHESS KNIGHT ROTATED THREE HUNDRED FIFTEEN DEGREES
ÀNEUTRAL CHESS KNIGHT ROTATED THREE HUNDRED FIFTEEN DEGREESÀuCHESS EQUIHOPPERÀxCHESS EQUIHOPPER
ÀNEUTRAL CHESS EQUIHOPPERÀuCHESS EQUIHOPPER ROTATED NINETY DEGREES
ÀxCHESS EQUIHOPPER ROTATED NINETY DEGREESÀNEUTRAL CHESS EQUIHOPPER ROTATED NINETY DEGREES
ÀuCHESS KNIGHT-QUEENÓROOKÓBISHOPÀxCHESS KNIGHT-QUEENÓROOKÓBISHOP=1fa60ÀXIANGQI RED GENERAL
ÌMANDARINÌELEPHANTÌHORSEÌCHARIOTÍANNONÌSOLDIERÈxGENERALÎMANDARINÎELEPHANTÎHORSEÎCHARIOTÏANNON
ÎSOLDIER=1fa70ÀBALLET SHOESÀONE-PIECE SWIMSUITÀBRIEFSÀSHORTSÀTHONG SANDAL=1fa78ÀDROP OF BLOOD
ÀADHESIVE BANDAGEÀSTETHOSCOPEÀX-RAYÀCRUTCH=1fa80ÀYO-YOÀKITEÀPARACHUTEÀBOOMERANGÀMAGIC WANDÀPINATA
ÀNESTING DOLLS=1fa90ÀRINGED PLANETÀCHAIRÀRAZORÀAXEÀDIYA LAMPÀBANJOÀMILITARY HELMETÀACCORDION
ÀLONG DRUMÀCOINÁARPENTRY SAWÀSCREWDRIVERÀLADDERÀHOOKÀMIRRORÀWINDOWÀPLUNGERÀSEWING NEEDLEÀKNOT
ÀBUCKETÀMOUSE TRAPÀTOOTHBRUSHÀHEADSTONEÀPLACARDÀROCKÀMIRROR BALLÀIDENTIFICATION CARDÀLOW BATTERY
ÀHAMSA=1fab0ÀFLYÀWORMÀBEETLEÀCOCKROACHÀPOTTED PLANTÀWOODÀFEATHERÀLOTUSÀCORALÀEMPTY NESTÀNESTaEGGS
=1fac0ÀANATOMICAL HEARTÀLUNGSÀPEOPLE HUGGINGÁREGNANT MANÉPERSONÁERSONaCROWN=1fad0ÀBLUEBERRIES
ÁELL PEPPERÀOLIVEÀFLATBREADÀTAMALEÀFONDUEÀTEAPOTÀPOURING LIQUIDÀBEANSÀJAR=1fae0ÀMELTING FACE
ÀSALUTING FACEÀFACEaOPEN EYESfHAND OVER MOUTHÊPEEKING EYEÊDIAGONAL MOUTHÀDOTTED LINE FACE
ÀBITING LIPÁUBBLES=1faf0ÀHANDaINDEX FINGERfTHUMB CROSSEDÀjHANDÀrHANDÀPALM DOWN HANDÅUP HAND
ÀINDEX POINTING AT THE VIEWERÀHEART HANDS=1fb00ÀBLOCK SEXTANT-1Î2Î12Î3Î13Î23Î123Î4Î14Î24Î124Î34
Î134Î234Î1234Î5Î15Î25Î125Î35Î235Î1235Î45Î145Î245Î1245Î345Î1345Î2345Î12345Î6Î16Î26Î126Î36Î136Î236
Î1236Î46Î146Ï246Î346Î1346Î2346Î12346Î56Î156Î256Î1256Î356Î1356Î2356Î12356Î456Î1456Î2456Î12456Î3456
Î13456Î23456ÀLOWER pBLOCK DIAGONAL LOWER MIDDLE pTO LOWER CENTREõmÚUPPER MIDDLE pTO LOWER CENTREõm
àpTO LOWER CENTREÆm BLOCK DIAGONAL UPPER MIDDLE pTO UPPER CENTREömÛLOWER MIDDLE pTO UPPER CENTREöm
ápTO UPPER CENTREáMIDDLE pTO UPPER MIDDLE máCENTRE TO LOWER MIDDLE mápTO LOWER MIDDLE m
áCENTRE TO UPPER MIDDLE mápTO UPPER MIDDLE máCENTRE TO UPPER m
ÆpBLOCK DIAGONAL UPPER CENTRE TO UPPER MIDDLE màpTO UPPER MIDDLE màCENTRE TO LOWER MIDDLE m
àpTO LOWER MIDDLE màCENTRE TO LOWER màMIDDLE pTO LOWER MIDDLE m
ÀUPPER m BLOCK DIAGONAL LOWER MIDDLE pTO LOWER CENTREömÛUPPER MIDDLE pTO LOWER CENTREöm
ápTO LOWER CENTREÆpBLOCK DIAGONAL UPPER MIDDLE pTO UPPER CENTREõmÚLOWER MIDDLE pTO UPPER CENTREõm
àpTO UPPER CENTREàMIDDLE pTO UPPER MIDDLE màCENTRE TO LOWER MIDDLE màpTO LOWER MIDDLE m
àCENTRE TO UPPER MIDDLE màpTO UPPER MIDDLE màCENTRE TO UPPER m
Æm BLOCK DIAGONAL UPPER CENTRE TO UPPER MIDDLE mápTO UPPER MIDDLE máCENTRE TO LOWER MIDDLE m
ápTO LOWER MIDDLE máCENTRE TO LOWER máMIDDLE pTO LOWER MIDDLE m
ÆAND mfLOWER TRIANGULAR THREE QUARTERS BLOCKÀLEFTfLOWERfm TRIANGULAR THREE QUARTERS BLOCK
ÀUPPERfLEFTfLOWER TRIANGULAR THREE QUARTERS BLOCKÀLEFTfUPPERfm TRIANGULAR THREE QUARTERS BLOCK
ÅTRIANGULAR ONE QUARTER BLOCKÀUPPER TRIANGULAR ONE QUARTER BLOCKÀm TRIANGULAR ONE QUARTER BLOCK
ÀLOWER TRIANGULAR ONE QUARTER BLOCKÀt ONE EIGHTH BLOCK-2Ú3Ú4Ú5Ú6Ú7ÀHORIZONTAL ONE EIGHTH BLOCK-2Ü3
Ü4Ü5Ü6Ü7ÀLEFTfLOWER ONE EIGHTH BLOCKÉUPPER ONE EIGHTH BLOCKÀmfUPPER ONE EIGHTH BLOCK
ÊLOWER ONE EIGHTH BLOCKÀUPPERfLOWER ONE EIGHTH BLOCKÀHORIZONTAL ONE EIGHTH BLOCK-1358
ÀUPPER ONE QUARTER BLOCKÆTHREE EIGHTHS BLOCKÆFIVE EIGHTHS BLOCKÆTHREE QUARTERS BLOCK
ÆSEVEN EIGHTHS BLOCKÀm ONE QUARTER BLOCKÆTHREE EIGHTHS BLOCKÆFIVE EIGHTHS BLOCK
ÆTHREE QUARTERS BLOCKÆSEVEN EIGHTHS BLOCKÀpHALF MEDIUM SHADEÀm HALF MEDIUM SHADE
ÀUPPER HALF MEDIUM SHADEÀLOWER HALF MEDIUM SHADEÀINVERSE MEDIUM SHADE
ÀUPPER HALF BLOCKfLOWER HALF INVERSE MEDIUM SHADEËINVERSE MEDIUM SHADEfLOWER HALF BLOCK
=1fb94ÀpHALF INVERSE MEDIUM SHADEfm HALF BLOCKÀCHECKER BOARD FILLÀINVERSE CHECKER BOARD FILL
ÀHEAVY HORIZONTAL FILLÀUPPER pTO LOWER m FILLÆm TO LOWER pFILLÆAND LOWER TRIANGULAR HALF BLOCK
ÀLEFTfm TRIANGULAR HALF BLOCKÀUPPER pTRIANGULAR MEDIUM SHADEÆm TRIANGULAR MEDIUM SHADE
ÀLOWER m TRIANGULAR MEDIUM SHADEÆpTRIANGULAR MEDIUM SHADE
ÀBOX DRAWINGS LIGHT DIAGONAL UPPER CENTRE TO MIDDLE LEFTómÜMIDDLE pTO LOWER CENTRE
ãm TO LOWER CENTREÜUPPER CENTRE TO MIDDLE pTO LOWER CENTREóm TO LOWER CENTRE
ÜMIDDLE pTO LOWER CENTRE TO MIDDLE mëUPPER CENTRE TO MIDDLE m
ÜUPPER CENTRE TO MIDDLE LEFTfMIDDLE m TO LOWER CENTREómfMIDDLE pTO LOWER CENTRE
ùTO LOWER CENTRE TO MIDDLE LEFTópTO LOWER CENTRE TO MIDDLE m
ÜMIDDLE pTO UPPER CENTRE TO MIDDLE m TO LOWER CENTREãm TO UPPER CENTRE TO MIDDLE pTO LOWER CENTRE
ÜDIAMONDÓHORIZONTALat wÀgHEAD-SHAPED POINTERÀINVERSE CHECK MARKÀpHALF RUNNING MAN
Àm HALF RUNNING MANÀINVERSE DOWNWARDS gaTIP LEFTWARDSÀrgfUPPERfLOWER ONE EIGHTH BLOCK
ÀjgfUPPERfLOWER ONE EIGHTH BLOCKÀDOWNWARDS gfm ONE EIGHTH BLOCKÀUPWARDS gfm ONE EIGHTH BLOCK
ÀpHALF FOLDERÀm HALF FOLDERÀVOIDED GREEK CROSSÀm OPEN SQUARED DOTÀNEGATIVE DIAGONAL CROSS
ÒMIDDLE m TO LOWER CENTREÒDIAMONDÀuHEAVY SALTIREaROUNDED CORNERSÀpTHIRD um POINTING INDEX
ÀMIDDLE THIRD um POINTING INDEXÀm THIRD um POINTING INDEXÀNEGATIVE SQUARED QUESTION MARK
ÀSTICK FIGUREÌaARMS RAISEDÍLEANING LEFTÕmÍWITH DRESSÀuUP-POINTING CHEVRON
=1fbf0ÀSEGMENTED DIGIT ZEROÐONEÐTWOÑHREEÐFOURÑIVEÐSIXÑEVENÐEIGHTÐNINE=e0001ÀLANGUAGE TAG
=e0020ÀTAG SPACEÄEXCLAMATION MARKÄQUOTATION MARKÄNUMBER kÄDOLLAR kÄPERCENT kÄAMPERSANDÅPOSTROPHE
ÄpPARENTHESISÄm PARENTHESISÄASTERISKÄPLUS kÄCOMMAÄHYPHEN-MINUSÄFULL STOPÄSOLIDUSÄDIGIT ZEROÊONE
ÊTWOËHREEÊFOURËIVEÊSIXËEVENÊEIGHTÊNINEÄCOLONÄSEMICOLONÄLESS-THAN kÄEQUALS kÄGREATER-THAN k
ÄQUESTION MARKÄCOMMERCIAL ATÄLATIN cbAÙBÙCÙDÙEÙFÙGÙHÙIÙJÙKÙLÙMÙNÙOÙPÙQÙRÙSÙTÙUÙVÙWÙXÙYÙZ
ÅEFT SQUARE BRACKETÄREVERSE SOLIDUSÅIGHT SQUARE BRACKETÄCIRCUMFLEX ACCENTÄLOW LINEÄGRAVE ACCENT
ÄLATIN dbA×B×C×D×E×F×G×H×I×J×K×L×M×N×O×P×Q×R×S×T×U×V×W×X×Y×ZÅEFT CURLY BRACKETÄt LINE
Äm CURLY BRACKETÄTILDEÀCANCEL TAG=e0100ÀVARIATION SELECTOR-17Ô8Ô9Ó20Ô1Ô2Ô3Ô4Ô5Ô6Ô7Ô8Ô9Ó30Ô1Ô2Ô3Ô4
Ô5Ô6Ô7Ô8Ô9Ó40Ô1Ô2Ô3Ô4Ô5Ô6Ô7Ô8Ô9Ó50Ô1Ô2Ô3Ô4Ô5Ô6Ô7Ô8Ô9Ó60Ô1Ô2Ô3Ô4Ô5Ô6Ô7Ô8Ô9Ó70Ô1Ô2Ô3Ô4Ô5Ô6Ô7Ô8Ô9Ó80
Ô1Ô2Ô3Ô4Ô5Ô6Ô7Ô8Ô9Ó90Ô1Ô2Ô3Ô4Ô5Ô6Ô7Ô8Ô9Ó100Õ1Õ2Õ3Õ4Õ5Õ6Õ7Õ8Õ9Ô10Õ1Õ2Õ3Õ4Õ5Õ6Õ7Õ8Õ9Ô20Õ1Õ2Õ3Õ4Õ5Õ6
Õ7Õ8Õ9Ô30Õ1Õ2Õ3Õ4Õ5Õ6Õ7Õ8Õ9Ô40Õ1Õ2Õ3Õ4Õ5Õ6Õ7Õ8Õ9Ô50Õ1Õ2Õ3Õ4Õ5Õ6Õ7Õ8Õ9Ô60Õ1Õ2Õ3Õ4Õ5Õ6Õ7Õ8Õ9Ô70Õ1Õ2
Õ3Õ4Õ5Õ6Õ7Õ8Õ9Ô80Õ1Õ2Õ3Õ4Õ5Õ6Õ7Õ8Õ9Ô90Õ1Õ2Õ3Õ4Õ5Õ6Õ7Õ8Õ9Ó200Õ1Õ2Õ3Õ4Õ5Õ6Õ7Õ8Õ9Ô10Õ1Õ2Õ3Õ4Õ5Õ6Õ7Õ8
Õ9Ô20Õ1Õ2Õ3Õ4Õ5Õ6Õ7Õ8Õ9Ô30Õ1Õ2Õ3Õ4Õ5Õ6Õ7Õ8Õ9Ô40Õ1Õ2Õ3Õ4Õ5Õ6Õ7Õ8Õ9Ô50Õ1Õ2Õ3Õ4Õ5Õ6=6ÀACK=6ÃNOWLEDGE
ÁLERT=61cÂM=9fÁPC=9fÂPLICATION PROGRAM COMMAND=8ÀBACKSPACE=7ÁEL=feffÁOM=82ÁPH
=82ÁREAK PERMITTED HERE=8ÁS=feffÁYTE ORDER MARK
=1d0c5ÂZANTINE MUSICAL z FTHORA SKLIRON CHROMA VASIS=18ÀCAN=18ÃCEL=94Æ CHARACTER=dÂRRIAGE RETURN
=94ÁCH=34fÁGJ=9ÁHARACTER TABULATION=88Ô SETÕWITH JUSTIFICATION=9bÁONTROL SEQUENCE INTRODUCER=dÁR
=9bÁSI=122d5ÁUNEIFORM k NU11 OVER NU11 BUR OVER BUR=122d4ÔTENU=10ÀDATA LINK ESCAPEÁC1Â2Â3Â4=90ÂS
=7fÁEL=7fÃETE=14ÂVICE CONTROL FOUR=11ÏONE=90ÏSTRING=13ÏTHREE=12ÐWO=10ÁLE=97ÀEND OF GUARDED AREA
=aÇLINE=19ÇMEDIUM=97ÇPROTECTED AREA=87ÇSELECTED AREA=3ÇTEXTÈRANSMISSION=17Ó BLOCK=5ÂQ=5ÃUIRY=aÁOL
=19ÂM=4ÂT=97ÁPA=87ÁSA=1bÂC=1bÃAPE=17ÁTB=3ÂX=cÀFF=1cÁILE SEPARATOR=cÁORM FEED=1cÁS=2068ÂI=180bÁVS1
Ã2Ã3=180fÃ4=1dÀGROUP SEPARATOR=1dÁS=11eeÀHANGUL JONGSEONG SSANGYESIEUNGÑYESIEUNG-KHIEUKH
=11ecÛIYEOKÚSSANGKIYEOK=1b001ÁENTAIGANAbE-1=81ÁIGH OCTET PRESET=81ÁOP=9ÂRIZONTAL TABULATION
=88Õ SETÖWITH JUSTIFICATION=9ÁT=89ÂJ=88ÂS=84ÀIND=84ÃEX=1cÂFORMATION SEPARATOR FOUR=1fÖONE=1dÖTHREE
×WO=cdeÀKANNADAbLLLA=e9fÀLAObFO FAY=e9dÏON=ea5ËLO=ea3ËRO=1a2ÂTIN cbGHAÆdbGHA=2b7aÁEFTWARDS qgant w
=aÁF=aÁINE FEEDÅTABULATION=8aÏ SET=eÁOCKING-SHIFT ONEÎZERO=202aÁRE=2066ÂI=200eÂM=202dÂO
=16e56ÀMEDEFAIDRIN cbHÛNG=16e76ÌdbHÙNG=95ÂSSAGE WAITING=2449ÁICR DASH z=2448ÅON US z=205fÁMSP
=180eÁVS=95ÁW=aa6eÁYANMARbKHAMTI LLA=15ÀNAK=83ÁBH=a0ÂSP=15ÁEGATIVE ACKNOWLEDGE=85ÂL=aÂW LINE
=85ÂXT LINE=aÁL=202fÁNBSP=83ÁO BREAK HERE=0ÁUL=0ÃL=9dÀOPERATING SYSTEM COMMAND=9dÁSC=80ÀPAD
=80ÃDING CHARACTER=8cÂRTIAL LINE BACKWARD=8bÍDOWN=8bÍFORWARDÍUP=202cÁDF=2069ÂI=8bÁLDÂU=9eÁM
=fe18ÁRESENTATION FORM FOR t m uLENTICULAR BRACKET=9eÂIVACY MESSAGE=91ÅTE USE ONEÌTWO=91Ë-1Ì2
=91ÁU1Â2=1eÀRECORD SEPARATOR=8dÂVERSE INDEX=8dÈLINE FEED=8dÁI=2b7cÂGHTWARDS qgant w=202bÁLE=2067ÂI
=200fÂM=202eÂO=1eÁS=9aÀSCI=93ÁET TRANSMIT STATE=99ÁGC=fÁHIFT IN=eÆOUT=adÂY=fÁI
=9aÂNGLE CHARACTER INTRODUCER=99ÇGRAPHIC CHARACTER INTRODUCER=8fÇSHIFT THREE=8eÎWO=8eÆ-SHIFT-2Í3
=eÁO=1ÂH=98ÂS=20ÁP=96ÂA=8eÁS2Â3=86ÂA=9cÁT=96ÂART OF GUARDED AREA=1ÉHEADING=96ÉPROTECTED AREA
=86ÉSELECTED AREA=98ÊTRING=2ÉTEXT=9cÂRING TERMINATOR=93ÂS=2ÂX=1aÁUB=1aÃSTITUTE=16ÁYN
=16ÃCHRONOUS IDLE=709ÂRIAC SUBLINEAR COLON SKEWED LEFT=9ÀTAB
=fd0ÁIBETAN MARK BKA- SHOG GI MGO RGYAN=1fÀUNIT SEPARATOR=1fÁS=bÀt TABULATION=8aÓ SET=fe00ÁS1
=fe09Ã0=e0153Ä0Ä1Ä2Ä3Ä4Ä5Ä6Ä7Ä8Ä9=fe0aÃ1=e015dÄ0Ä1Ä2Ä3Ä4Ä5Ä6Ä7Ä8Ä9=fe0bÃ2=e0167Ä0Ä1Ä2Ä3Ä4Ä5Ä6Ä7Ä8
Ä9=fe0cÃ3=e0171Ä0Ä1Ä2Ä3Ä4Ä5Ä6Ä7Ä8Ä9=fe0dÃ4=e017bÄ0Ä1Ä2Ä3Ä4Ä5Ä6Ä7Ä8Ä9=fe0eÃ5=e0185Ä0Ä1Ä2Ä3Ä4Ä5Ä6Ä7
Ä8Ä9=fe0fÃ6=e018fÄ0Ä1Ä2Ä3Ä4Ä5Ä6Ä7Ä8Ä9=e0100Ã7=e0199Ä0Ä1Ä2Ä3Ä4Ä5Ä6Ä7Ä8Ä9=e0101Ã8=e01a3Ä0Ä1Ä2Ä3Ä4Ä5
Ä6Ä7Ä8Ä9=e0102Ã9=e01adÄ0Ä1Ä2Ä3Ä4Ä5Ä6Ä7Ä8Ä9=fe01Â2=e0103Ã0=e01b7Ä0Ä1Ä2Ä3Ä4Ä5Ä6Ä7Ä8Ä9=e0104Ã1
=e01c1Ä0Ä1Ä2Ä3Ä4Ä5Ä6Ä7Ä8Ä9=e0105Ã2=e01cbÄ0Ä1Ä2Ä3Ä4Ä5Ä6Ä7Ä8Ä9=e0106Ã3=e01d5Ä0Ä1Ä2Ä3Ä4Ä5Ä6Ä7Ä8Ä9
=e0107Ã4=e01dfÄ0Ä1Ä2Ä3Ä4Ä5Ä6Ä7Ä8Ä9=e0108Ã5=e01e9Ä0Ä1Ä2Ä3Ä4Ä5Ä6=e0109Ã6Ã7Ã8Ã9=fe02Â3=e010dÃ0Ã1Ã2Ã3
Ã4Ã5Ã6Ã7Ã8Ã9=fe03Â4=e0117Ã0Ã1Ã2Ã3Ã4Ã5Ã6Ã7Ã8Ã9=fe04Â5=e0121Ã0Ã1Ã2Ã3Ã4Ã5Ã6Ã7Ã8Ã9=fe05Â6=e012bÃ0Ã1Ã2
Ã3Ã4Ã5Ã6Ã7Ã8Ã9=fe06Â7=e0135Ã0Ã1Ã2Ã3Ã4Ã5Ã6Ã7Ã8Ã9=fe07Â8=e013fÃ0Ã1Ã2Ã3Ã4Ã5Ã6Ã7Ã8Ã9=fe08Â9=e0149Ã0Ã1
Ã2Ã3Ã4Ã5Ã6Ã7Ã8Ã9=bÁT=8aÂS=2118ÀWEIERSTRASS ELLIPTIC FUNCTION=2060ÁJ
=a015ÀYI SYLLABLE ITERATION MARK=200dÀZWJ=feffÂNBSP=200cÃJ=200bÂSP"

end ArchModel.Text
