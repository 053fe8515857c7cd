import LineCalc.Text.CharName.Basic

/-!
Names of characters from E to L.
-/
namespace LineCalc.Text

def namesEToL : NameTable := ⟨"
  aE-MAIL_SYMBOL mAGLE dR a_OF_MAIZE fRICE hWITH_HEARING_AID rTH a_GLOBE_AMERICAS hSIA-AUSTRALIA
  oEUROPE-AFRICA sROUND kST_SYRIAC_CROSS qDITORIAL_CORONIS qGG bYPTIAN_HIEROGLYPH_A001 b2 b3 b4 b5
  aA c6 aA bB c7 b8 b9 c10 b1 b2 b3 b4 aA c5 b6 b7 aA c8 b9 c20 b1 b2 b3 b4 b5 b6 b7 b8 b9 c30 b1 b2
  aA c3 b4 b5 b6 b7 b8 b9 c40 aA c1 b2 aA c3 aA c4 b5 aA c6 b7 b8 b9 c50 b1 b2 b3 b4 b5 b6 b7 b8 b9
  c60 b1 b2 b3 b4 b5 b6 b7 b8 b9 c70 dA001 b2 b3 b4 b5 b6 b7 aA bB c8 b9 c10 b1 b2 b3 b4 b5 b6 b7 b8
  b9 c20 b1 b2 b3 b4 b5 b6 b7 b8 b9 c30 b1 b2 fB001 b2 b3 b4 b5 aA c6 b7 b8 b9 dEGIN_SEGMENT nC001
  b2 aA bB bC c3 b4 b5 b6 b7 b8 b9 c10 aA c1 b2 b3 b4 b5 b6 b7 b8 b9 c20 b1 b2 b3 b4 eD001 b2 b3 b4
  b5 b6 b7 b8 aA c9 c10 b1 b2 b3 b4 b5 b6 b7 b8 b9 c20 b1 b2 b3 b4 b5 b6 b7 aA c8 b9 c30 b1 aA c2 b3
  b4 aA c5 b6 b7 b8 b9 c40 b1 b2 b3 b4 b5 b6 aA c7 b8 aA c9 c50 aA bB bC bD bE bF bG bH bI c1 b2 aA
  c3 b4 aA c5 b6 b7 b8 b9 c60 b1 b2 b3 b4 b5 b6 b7 aA bB bC bD bE bF bG bH fE001 b2 b3 b4 b5 b6 b7
  b8 aA c9 aA d10 b1 b2 b3 b4 b5 b6 aA c7 aA c8 b9 c20 aA c1 b2 b3 b4 b5 b6 b7 b8 aA c9 c30 b1 b2 b3
  b4 aA c6 b7 b8 dND_SEGMENT lF001 aA c2 b3 b4 b5 b6 b7 b8 b9 c10 b1 b2 b3 aA c4 b5 b6 b7 b8 b9 c20
  b1 aA c2 b3 b4 b5 b6 b7 b8 b9 c30 b1 aA c2 b3 b4 b5 b6 b7 aA c8 aA c9 c40 b1 b2 b3 b4 b5 aA c6 aA
  c7 aA c8 b9 c50 b1 aA bB bC c2 b3 eG001 b2 b3 b4 b5 b6 aA c7 aA bB c8 b9 c10 b1 aA c2 b3 b4 b5 b6
  b7 b8 b9 c20 aA c1 b2 b3 b4 b5 b6 aA c7 b8 b9 c30 b1 b2 b3 b4 b5 b6 aA c7 aA c8 b9 c40 b1 b2 b3 aA
  c4 b5 aA c6 b7 b8 b9 c50 b1 b2 b3 b4 eH001 b2 b3 b4 b5 b6 aA c7 b8 dORIZONTAL_JOINER rI001 b2 b3
  b4 b5 aA c6 b7 b8 b9 aA d10 aA c1 aA c2 b3 b4 b5 dNSERT_AT_BOTTOM_END dSTART mTOP_END dSTART tK001
  b2 b3 b4 b5 b6 b7 b8 eL001 b2 aA c3 b4 b5 b6 aA c7 b8 eM001 aA bB c2 b3 aA c4 b5 b6 b7 b8 b9 c10
  aA c1 b2 aA bB bC bD bE bF bG bH c3 b4 b5 aA c6 aA c7 aA c8 b9 c20 b1 b2 aA c3 b4 aA c5 b6 b7 b8
  aA c9 c30 b1 aA c2 b3 aA bB c4 b5 b6 b7 b8 b9 c40 aA c1 b2 b3 b4 eN001 b2 b3 b4 b5 b6 b7 b8 b9 c10
  b1 b2 b3 b4 b5 b6 b7 b8 aA bB c9 c20 b1 b2 b3 b4 b5 aA c6 b7 b8 b9 c30 b1 b2 b3 aA c4 aA c5 aA c6
  b7 aA c8 b9 c40 b1 b2 dL001 b2 b3 b4 b5 aA c6 b7 b8 b9 c10 b1 b2 b3 b4 b5 b6 b7 aA c8 b9 c20 eU001
  b2 b3 b4 b5 b6 b7 b8 b9 c10 aA c1 aA c2 b3 b4 b5 b6 b7 b8 aA c9 c20 b1 b2 aA gO001 aA c2 b3 b4 b5
  aA c6 aA bB bC bD bE bF c7 b8 b9 c10 aA bB bC c1 b2 b3 b4 b5 b6 b7 b8 b9 aA d20 aA c1 b2 b3 b4 aA
  c5 aA c6 b7 b8 b9 aA d30 aA c1 b2 b3 aA c4 b5 b6 aA bB bC bD c7 b8 b9 c40 b1 b2 b3 b4 b5 b6 b7 b8
  b9 c50 aA bB c1 dVERLAY_MIDDLE oP001 aA c2 b3 aA c4 b5 b6 b7 b8 b9 c10 b1 eQ001 b2 b3 b4 b5 b6 b7
  eR001 b2 aA c3 aA bB c4 b5 b6 b7 b8 b9 c10 aA c1 b2 b3 b4 b5 b6 aA c7 b8 b9 c20 b1 b2 b3 b4 b5 b6
  b7 b8 b9 eS001 b2 aA c3 b4 b5 b6 aA c7 b8 b9 c10 b1 b2 b3 b4 aA bB c5 b6 b7 aA c8 b9 c20 b1 b2 b3
  b4 b5 b6 aA bB c7 b8 b9 c30 b1 b2 b3 b4 b5 aA c6 b7 b8 b9 c40 b1 b2 b3 b4 b5 b6 eT001 b2 b3 aA c4
  b5 b6 b7 aA c8 aA c9 aA d10 b1 aA c2 b3 b4 b5 b6 aA c7 b8 b9 c20 b1 b2 b3 b4 b5 b6 b7 b8 b9 c30 b1
  b2 aA c3 aA c4 b5 b6 eU001 b2 b3 b4 b5 b6 aA bB c7 b8 b9 c10 b1 b2 b3 b4 b5 b6 b7 b8 b9 c20 b1 b2
  b3 aA c4 b5 b6 b7 b8 b9 aA d30 b1 b2 aA c3 b4 b5 b6 b7 b8 b9 c40 b1 b2 eV001 aA bB bC bD bE bF bG
  bH bI c2 aA c3 b4 b5 b6 b7 aA bB c8 b9 c10 b1 aA bB bC c2 aA bB c3 b4 b5 b6 b7 b8 b9 c20 aA bB bC
  bD bE bF bG bH bI bJ bK bL c1 b2 b3 aA c4 b5 b6 b7 b8 aA c9 aA d30 aA c1 aA c2 b3 aA c4 b5 b6 b7
  aA c8 b9 c40 aA eERTICAL_JOINER pW001 b2 b3 aA c4 b5 b6 b7 b8 b9 aA d10 aA c1 b2 b3 b4 aA c5 b6 b7
  aA c8 aA c9 c20 b1 b2 b3 b4 aA c5 eX001 b2 b3 b4 aA bB c5 b6 aA c7 b8 aA fY001 aA c2 b3 b4 b5 b6
  b7 b8 eZ001 b2 aA bB bC bD c3 aA bB c4 aA c5 aA c6 b7 b8 b9 c10 b1 b2 b3 b4 b5 aA bB bC bD bE bF
  bG bH bI c6 aA bB bC bD bE bF bG bH yIGHT_PETALLED_OUTLINED_BLACK_FLORETTE zgOINTED_BLACK_STAR
  kPINWHEEL_STAR nRECTILINEAR_BLACK_STAR zfSPOKED_ASTERISK pTEARDROP-SPOKED_PROPELLER_ASTERISK
  zkH_NOTE kJECT_SYMBOL lLBASAN_LETTER_A bBE cCE bHE dDE bHE dE aI cFE cGE bHAMMA eE cJE dHE cI bJE
  cKE bHE dLE bLE dME cNA bDE cE bJE dO bPE cQE cRE bRE dSE bHE dTE bHE dU bVE cXE cY bZE bHE
  qECTRIC_ARROW fLIGHT_BULB kPLUG eTORCH gAL_INTERSECTION uMENT_OF a_OPENING_DOWNWARDS jUPWARDS
  pWITH_DOT_ABOVE jLONG_HORIZONTAL_STROKE wOVERBAR hTWO_HORIZONTAL_STROKES wUNDERBAR
  iVERTICAL_BAR_AT_END_OF_HORIZONTAL_STROKE zzdPHANT fVATOR gF bYMAIC_LETTER_ALEPH eYIN eBETH
  eDALETH gGIMEL fHE aTH eKAPH eLAMEDH gMEM dNUN dPE cQOPH eRESH eSADHE dMEKH fHIN eTAW cETH eWAW
  dYODH eZAYIN lIGATURE_ZAYIN-YODH zbM_DASH eQUAD eSPACE gOJI_COMPONENT_BALD eCURLY_HAIR kRED_HAIR
  iWHITE_HAIR uMODIFIER_FITZPATRICK_TYPE-1-2 d3 b4 b5 b6 zgPHASIS_SYMBOL mTY_DOCUMENT iNEST dOTE
  a_PAD bGE jPAGE aS fSET a_WITH_LEFT_ARROW_ABOVE qOVERBAR hRIGHT_ARROW_ABOVE rSMALL_CIRCLE_ABOVE
  zhN_DASH eQUAD eSPACE gD_OF_GUARDED_AREA mLINE eMEDIUM gPROOF cTECTED_AREA oSELECTED_AREA nTEXT
  dRANSMISSION a_BLOCK vWITH_LEFTWARDS_ARROW_ABOVE zdQ aUIRY fTER_SYMBOL kVELOPE
  a_WITH_DOWNWARDS_ARROW_ABOVE vLIGHTNING wOL bM bT cPA cQUAL_AND_PARALLEL_TO pTO_BY_DEFINITION
  nOR_GREATER-THAN mLESS-THAN jPRECEDES iSUCCEEDS pS_COLON fSIGN a_ABOVE_LEFTWARDS_ARROW pPLUS_SIGN
  jRIGHTWARDS_ARROW qTILDE_OPERATOR tND_SLANTED_PARALLEL a_WITH_TILDE_ABOVE zmWITH_BUMPY_ABOVE
  lDOT_BELOW jINFINITY_BELOW oTWO_DOTS_ABOVE_AND_TWO_DOTS_BELOW zsWITH_ASTERISK rIANGULAR_TO
  kVALENT_TO cWITH_FOUR_DOTS_ABOVE zfRASE_TO_THE_LEFT eRIGHT qIS_FORM_ONE dTWO
  lROR-BARRED_BLACK_CIRCLE gDIAMOND hSQUARE mWHITE_CIRCLE gDIAMOND hSQUARE ySA bC aAPE
  eTIMATED_SYMBOL iS iTB bHIOPIC_COLON dMBINING_GEMINATION_AND_VOWEL_LENGTH_MARK vMARK
  pVOWEL_LENGTH_MARK yMA fDIGIT_EIGHT fFIVE dOUR eNINE eONE dSEVEN eIX dTHREE eWO jFULL_STOP
  jNUMBER_EIGHTY gFIFTY eORTY fHUNDRED hNINETY gSEVENTY gIXTY fTEN a_THOUSAND lHIRTY fWENTY
  nPARAGRAPH_SEPARATOR sREFACE_COLON nQUESTION_MARK nSECTION_MARK kMICOLON iYLLABLE_BA aA cBA aA cE
  aE cI bO bU cE aE cI bO aA cU bWA bE aE cI dCA aA cCA aA cE aE cHA aA cE aE cHA aA cE aE cI bO bU
  cI bO bU cI bO bU cE aE cHA aA cE aE cI bO aA cU bWA dI bO aA cU bWA dDA aA cDA aA cE aE cHAA cE
  aE cI bO bU cI bO aA cU bWA dE aE cI bO aA cU bWA cZAA cE aE cI bO bU dFA aA cE aE cI bO bU bWA bE
  aE cI cYA dGA aA cE aE cGA aA cE aE cI bO bU bWA aA cE aE cI dI bLOTTAL_A aA cE aE cI bO aA cU bWA
  jO aA cU aRAGE_BWEE cI dFWEE cI dGWE aE cI dHHWA eKWE aE cI dMWEE cI dPWEE cI dQWE aE cI jWA aA cE
  aE cI cYA aA cE aE cI bO bU dHA aA cE aE cHA aA cE aE cI bO bU bWA bE aE cI cYA aA cE aE cI bO bU
  dI bO aA cU cJA aA cE aE cI bO aA cU bWA dKA aA cE aE cI bO aA cU bWA aA cE aE cI cXA aA cE aE cI
  bO bU bWA aA cE aE cI dYA aA cE aE cI bO bU dLA aA cE aE cI bO aA cU bWA dMA aA cE aE cI bO aA cU
  bWA bE aE cI cYA dNA aA cE aE cI bO aA cU bWA cYA aA cE aE cI bO aA cU bWA ePA aA cE aE cHA aA
  bRYNGEAL_A aA cE aE cI bO bU kE aE cI bO aA cU bWA dI bO aA cU bWA bE aE cI dQA aA cE aE cHA aA cE
  aE cI bO bU bWA aA cE aE cI dI bO aA cU bWA aA cE aE cI cYA aA cE aE cI bO bU dRA aA cE aE cI bO
  aA cU bWA cYA dSA aA cE aBATBEIT_BWA dFWA dMWA dPWA lE cHA aA cE aE cI bO aA cU bWA dI bO aA cSA
  aA cE aE cI bO bU cU bWA cZA aA cE aE cI bO bU bWA eTA aA cE aE cHA aA cE aE cI bO aA cU bWA dI bO
  aA cSA aA cE aE cI bO bU bWA dTHAA cE aE cI bO bU dU bWA cZA aA cE aE cI bO aA cU dVA aA cE aE cI
  bO bU bWA dWA aA cE aE cI bO aA cU cXA aA cE aE cI bO aA cU bWA aA cE aE cI cYA aA cE aE cI bO bU
  dYA aA cE aE cI bO aA cU cZA aA cE aE cHA aA cE aE cI bO bU bWA dI bO aA cU bWA cZA aA cE aE cI bO
  bU mTONAL_MARK_CHIRET gDERET a-HIDET kIFAT fHIDET fKENAT eURT eRIKRIK gSHORT_RIKRIK mYIZET
  qWORDSPACE qX cULER_CONSTANT mRO_SIGN f-CURRENCY_SIGN oPEAN_CASTLE gPOST_OFFICE tVERGREEN_TREE
  nXCESS dLAMATION_MARK eQUESTION_MARK xPRESSIONLESS_FACE rTENDED_ARABIC-INDIC_DIGIT_EIGHT fFIVE
  dOUR eNINE eONE dSEVEN eIX dTHREE eWO dZERO zeRATERRESTRIAL_ALIEN
  sEMELY_HEAVY_FIVE_SPOKED_ASTERISK uGREEK_CROSS lSALTIRE gIX_SPOKED_ASTERISK tWHITE_CIRCLE gSQUARE
  zcYE aGLASSES hS eFACE_HOLDING_BACK_TEARS sMASSAGE hPALM eSAVOURING_DELICIOUS_FOOD
  xCREAMING_IN_FEAR rTHROWING_A_KISS pWITH_COLD_SWEAT iWBOY_HAT kDIAGONAL_MOUTH
  oFINGER_COVERING_CLOSED_LIPS zcHEAD-BANDAGE mLOOK_OF_TRIUMPH pMEDICAL_MASK lONOCLE
  hNO_GOOD_GESTURE pOK_GESTURE jNE_EYEBROW_RAISED rPEN_EYES_AND_HAND_OVER_MOUTH yMOUTH
  a_AND_COLD_SWEAT oVOMITING tPARTY_HORN_AND_PARTY_HAT xEEKING_EYE kLEADING_EYES nROLLING_EYES
  mSTUCK-OUT_TONGUE a_AND_TIGHTLY-CLOSED_EYES tWINKING_EYE zhTEARS_OF_JOY lHERMOMETER
  lUNEVEN_EYES_AND_WAVY_MOUTH zcOUT_MOUTH pSIMILE_SIGN lTORY fIRY dLAFEL eLEN_LEAF
  hING_DIAGONAL_CROSSING_NORTH_EAST_ARROW qRISING_DIAGONAL yIN_WHITE_CIRCLE_IN_BLACK_SQUARE zvMILY
  eRSI_SYMBOL kTHER_CHRISTMAS oX_ICON eMACHINE kEARFUL_FACE jTHER fMALE_SIGN
  iININE_ORDINAL_INDICATOR yNCER eRRIS_WHEEL iY eF bIELD_HOCKEY_STICK_AND_BALL zGURE_DASH eSPACE
  kLE_CABINET hFOLDER gSEPARATOR lM_FRAMES gPROJECTOR mNITE_PART_INTEGRAL sRE a_ENGINE fXTINGUISHER
  nCRACKER hWORK_SPARKLER jS gST_PLACE_MEDAL lQUARTER_MOON a_SYMBOL gWITH_FACE wSTRONG_ISOLATE sSH
  a_CAKE_WITH_SWIRL_DESIGN xEYE dING_POLE_AND_FISH sTED_HAND_SIGN oVE_DOT_MARK ePUNCTUATION
  tLAG_IN_HOLE jMINGO fT_SHOE fBREAD fNESS gEUR-DE-LIS jXED_BICEPS lOPPY_DISK iRAL_HEART jWER
  a_PLAYING_CARDS mUNCTUATION_MARK vUSHED_FACE kY aING_DISC eENVELOPE iSAUCER mOG aGY dLDER eNDUE
  eOT aPRINTS iR_ALL eCES dK_AND_KNIFE a_WITH_PLATE vED_PARAGRAPHOS oING eM_FEED gTUNE_COOKIE
  mUNTAIN fR_BALLOON-SPOKED_ASTERISK xCLUB-SPOKED_ASTERISK tORNER_ARROWS_CIRCLING_ANTICLOCKWISE
  zlDOT_MARK ePUNCTUATION pLEAF_CLOVER lPOINTED_BLACK_STAR sTEARDROP-SPOKED_ASTERISK z-PER-EM_SPACE
  nTH_ROOT jX_FACE hRACTION_NUMERATOR_ONE nSLASH lME_WITH_AN_X ePICTURE hTILES oEEZING_FACE
  kNCH_FRANC_SIGN iIES kIED_SHRIMP kOG_FACE gNT-FACING_BABY_CHICK
  rTILTED_SHADOWED_WHITE_RIGHTWARDS_ARROW zqWN aING_FACE_WITH_OPEN_MOUTH zdS aI cUEL_PUMP hLL_BLOCK
  fMOON_SYMBOL gWITH_FACE oOUTER_JOIN kSTOP fWIDTH_AMPERSAND iPOSTROPHE jSTERISK iBROKEN_BAR
  kCENT_SIGN iIRCUMFLEX_ACCENT qOLON dMMA bERCIAL_AT nDIGIT_EIGHT fFIVE dOUR eNINE eONE dSEVEN eIX
  dTHREE eWO dZERO jOLLAR_SIGN lEQUALS_SIGN kXCLAMATION_MARK qFULL_STOP jGRAVE_ACCENT
  kEATER-THAN_SIGN rHYPHEN-MINUS mLATIN_CAPITAL_LETTER_A bB bC bD bE bF bG bH bI bJ bK bL bM bN bO
  bP bQ bR bS bT bU bV bW bX bY bZ qSMALL_LETTER_A bB bC bD bE bF bG bH bI bJ bK bL bM bN bO bP bQ
  bR bS bT bU bV bW bX bY bZ tEFT_CURLY_BRACKET nPARENTHESIS lSQUARE_BRACKET oWHITE_PARENTHESIS
  uSS-THAN_SIGN nOW_LINE iMACRON gNOT_SIGN hUMBER_SIGN lPERCENT_SIGN lLUS_SIGN iOUND_SIGN
  kQUESTION_MARK lOTATION_MARK oREVERSE_SOLIDUS oIGHT_CURLY_BRACKET nPARENTHESIS lSQUARE_BRACKET
  oWHITE_PARENTHESIS xSEMICOLON iOLIDUS hTILDE fVERTICAL_LINE nWON_SIGN iYEN_SIGN
  qNCTION_APPLICATION rERAL_URN jSE dVS1 b2 b3 b4 eGAME_DIE gRLIC fEAR a_WITH_HANDLES iOUT_HUB
  oM_STONE gINI eNIE dOMETRIC_PROPORTION lALLY_EQUAL_TO fIVALENT_TO yRGIAN_CAPITAL_LETTER_AEN cN
  cBAN dCAN cHAR cIN dIL dDON dEN cGAN cHAN eHAE bR cE bIE cOE dIN cJHAN dIL dKAN cHAR eLAS dMAN
  dNAR dON cPAR cHAR eQAR dRAE dSAN cHIN eTAN bR dUN cVIN dWE cXAN dYN cZEN cHAR tLETTER_AEN cIN cN
  cBAN dCAN cHAR cIN dIL dDON dELIFI eN cFI cGAN cHAN eHAE bR aD_SIGN iE bIE cOE dIN cJHAN dIL dKAN
  cHAR eLABIAL_SIGN jS dMAN dNAR dON cPAR cHAR eQAR dRAE dSAN cHIN eTAN bR cURNED_GAN kUN cVIN dWE
  cXAN dYN cZEN cHAR lMTAVRULI_CAPITAL_LETTER_AEN cIN cN cBAN dCAN cHAR cIN dIL dDON dELIFI eN cFI
  cGAN cHAN eHAE bR aD_SIGN iE bIE cOE dIN cJHAN dIL dKAN cHAR eLABIAL_SIGN jS dMAN dNAR dON cPAR
  cHAR eQAR dRAE dSAN cHIN eTAN bR cURNED_GAN kUN cVIN dWE cXAN dYN cZEN cHAR zdPARAGRAPH_SEPARATOR
  tSMALL_LETTER_AEN cN cBAN dCAN cHAR cIN dIL dDON dEN cGAN cHAN eHAE bR cE bIE cOE dIN cJHAN dIL
  dKAN cHAR eLAS dMAN dNAR dON cPAR cHAR eQAR dRAE dSAN cHIN eTAN bR dUN cVIN dWE cXAN dYN cZEN cHAR
  yRMAN_PENNY_SIGN pTA_MARK iHOST eIMEL_SYMBOL kRAFFE_FACE jL aS_SYMBOL
  lLAGOLITIC_CAPITAL_LETTER_AZU dBIG_YUS gUKY eCAUDATE_CHRIVI nHRIVI gDJERVI fOBRO eZELO fFITA dRITU
  fGLAGOLI hHERU eI aNITIAL_IZHE lOTATED_BIG_YUS hSMALL_YUS qZHE bITSA hKAKO eLATINATE_MYSLITE
  pJUDIJE hMYSLITE hNASHI fONU cTU dPE bOKOJI gRITSI fSHA bTA aPIC gLOVO eMALL_YUS a_WITH_TAIL
  sPIDERY_HA kTROKUTASTI_A lSI cVRIDO gUKU dVEDE eYATI dERI bU cSTU eO bU cZEMLJA fHIVETE
  wSMALL_LETTER_AZU dBIG_YUS gUKY eCAUDATE_CHRIVI nHRIVI gDJERVI fOBRO eZELO fFITA dRITU fGLAGOLI
  hHERU eI aNITIAL_IZHE lOTATED_BIG_YUS hSMALL_YUS qZHE bITSA hKAKO eLATINATE_MYSLITE pJUDIJE
  hMYSLITE hNASHI fONU cTU dPE bOKOJI gRITSI fSHA bTA aPIC gLOVO eMALL_YUS a_WITH_TAIL sPIDERY_HA
  kTROKUTASTI_A lSI cVRIDO gUKU dVEDE eYATI dERI bU cSTU eO bU cZEMLJA fHIVETE zdSS_OF_MILK
  lEICH_STARK kOBE_WITH_MERIDIANS rVES dWING_STAR lOAL_NET fT cGGLES fLFER eRILLA fTHIC_LETTER_AHSA
  dIHVUS gBAIRKAN hDAGS eEIS dFAIHU fGIBA eHAGL dWAIR fIGGWS eUJA eJER dKUSMA fLAGUS fMANNA fNAUTHS
  fINE_HUNDRED iTY gOTHAL fPAIRTHRA iQAIRTHRA iRAIDA fSAUIL fTEIWS eHIUTH gURUS eWINJA
  sRADUATION_CAP lNTHA_AU_LENGTH_MARK oLETTER_A aA bI bU cBA bHA dCA bHA dDA bDA bHA dHA dEE cGA bHA
  dHA cI aI cJA bHA dKA bHA dLA bLA dMA cNA bGA cNA cYA dOO cPA bHA dRA cSA bHA cSA dTA bHA cTA bHA
  eU aU cVA bEDIC_ANUSVARA iDOUBLE_ANUSVARA uOCALIC_L aL cR aR kYA jOM cSIGN_ANUSVARA hVAGRAHA
  iCANDRABINDU kOMBINING_ANUSVARA_ABOVE yNUKTA fPLUTA fVIRAMA eSARGA mVOWEL_SIGN_AA bI bU cEE cI aI
  cOO cU aU cVOCALIC_L aL cR aR zbPES dVE_ACCENT kEATER-THAN_ABOVE_DOUBLE-LINE_EQUAL_ABOVE_LESS-THAN
  ziLESS-THAN_ABOVE_DOUBLE-LINE_EQUAL ziRIGHTWARDS_ARROW qSIMILAR_ABOVE_LESS-THAN pOR_EQUAL
  pLANTED_EQUAL_ABOVE_LESS-THAN_ABOVE_SLANTED_EQUAL zzeND_NOT_APPROXIMATE pSINGLE-LINE_NOT_EQUAL_TO
  zdBESIDE_LESS-THAN pUT_NOT_EQUAL_TO fIVALENT_TO vCLOSED_BY_CURVE a_ABOVE_SLANTED_EQUAL
  zkEQUAL_TO_OR_LESS-THAN vOR_APPROXIMATE lEQUAL_TO fIVALENT_TO nLESS-THAN jSLANTED_EQUAL_TO
  a_WITH_DOT_ABOVE a_LEFT kINSIDE zjVER_EQUAL_TO jLAPPING_LESS-THAN vSIGN eWITH_CIRCLE_INSIDE nDOT
  dQUESTION_MARK_ABOVE zjEK_ACROPHONIC_ATTIC_FIFTY a_STATERS hTALENTS gHOUSAND a_STATERS uVE
  a_HUNDRED a_STATERS hTALENTS pSTATERS hTALENTS gHOUSAND a_TALENTS vONE_DRACHMA hHALF
  dUNDRED_STATERS hTALENTS pQUARTER hTHOUSAND_STATERS hTALENTS uTEN_MNAS eSTATERS hTALENTS
  gHOUSAND_STATERS zbCARYSTIAN_FIVE_HUNDRED vYRENAIC_TWO_DRACHMAS vDELPHIC_FIVE_MNAS
  rEPIDAUREAN_FIVE_HUNDRED mTWO a_DRACHMAS xHERAEUM_ONE_PLETHRON rMIONIAN_FIFTY fONE dTEN
  oMESSENIAN_TEN nNAXIAN_FIVE_HUNDRED tSTRATIAN_FIFTY_MNAS tTHESPIAN_FIFTY dVE_HUNDRED hTHOUSAND
  nONE a_HUNDRED hTHOUSAND mTEN cHIRTY eREE_HUNDRED mWO lROEZENIAN_FIFTY a_ALTERNATE_FORM sVE
  a_HUNDRED mTEN a_ALTERNATE_FORM zoNO_TELEIA jROURA_SIGN jTABE_SIGN lBETA_SYMBOL
  lCAPITAL_DOTTED_LUNATE_SIGMA_SYMBOL zbKAI_SYMBOL kLETTER_ALPHA a_WITH_DASIA a_AND_OXIA
  a_AND_PROSGEGRAMMENI xPERISPOMENI a_AND_PROSGEGRAMMENI zeROSGEGRAMMENI oVARIA a_AND_PROSGEGRAMMENI
  zjMACRON gOXIA ePROSGEGRAMMENI nSILI a_AND_OXIA a_AND_PROSGEGRAMMENI xPERISPOMENI
  a_AND_PROSGEGRAMMENI zeROSGEGRAMMENI oVARIA a_AND_PROSGEGRAMMENI zjTONOS fVARIA eRACHY
  qRCHAIC_SAMPI nBETA eCHI dDELTA fEPSILON a_WITH_DASIA a_AND_OXIA eVARIA pOXIA ePSILI a_AND_OXIA
  eVARIA pTONOS fVARIA rTA a_WITH_DASIA a_AND_OXIA a_AND_PROSGEGRAMMENI xPERISPOMENI
  a_AND_PROSGEGRAMMENI zeROSGEGRAMMENI oVARIA a_AND_PROSGEGRAMMENI zjOXIA ePROSGEGRAMMENI nSILI
  a_AND_OXIA a_AND_PROSGEGRAMMENI xPERISPOMENI a_AND_PROSGEGRAMMENI zeROSGEGRAMMENI oVARIA
  a_AND_PROSGEGRAMMENI zjTONOS fVARIA oGAMMA fHETA eIOTA a_WITH_DASIA a_AND_OXIA ePERISPOMENI lVARIA
  oIALYTIKA jMACRON gOXIA ePSILI a_AND_OXIA ePERISPOMENI lVARIA pTONOS fVARIA eRACHY qKAPPA fLAMDA
  fMU cNU cOMEGA a_WITH_DASIA a_AND_OXIA a_AND_PROSGEGRAMMENI xPERISPOMENI a_AND_PROSGEGRAMMENI
  zeROSGEGRAMMENI oVARIA a_AND_PROSGEGRAMMENI zjOXIA ePROSGEGRAMMENI nSILI a_AND_OXIA
  a_AND_PROSGEGRAMMENI xPERISPOMENI a_AND_PROSGEGRAMMENI zeROSGEGRAMMENI oVARIA a_AND_PROSGEGRAMMENI
  zjTONOS fVARIA oICRON a_WITH_DASIA a_AND_OXIA eVARIA pOXIA ePSILI a_AND_OXIA eVARIA pTONOS fVARIA
  sPAMPHYLIAN_DIGAMMA rHI cI bSI dRHO a_WITH_DASIA oSAN cHO cIGMA fTAU cHETA fUPSILON a_WITH_DASIA
  a_AND_OXIA ePERISPOMENI lVARIA oIALYTIKA jMACRON gOXIA eTONOS fVARIA eRACHY tXI cYOT dZETA
  kUNATE_SIGMA_SYMBOL tREVERSED_DOTTED_LUNATE_SIGMA_SYMBOL zbLUNATE_SIGMA_SYMBOL zdTHETA_SYMBOL
  uDASIA a_AND_OXIA ePERISPOMENI lVARIA oIALYTIKA_AND_OXIA ePERISPOMENI lVARIA jTONOS oRACHMA_SIGN
  mFIVE_OBOLS_SIGN oOUR_OBOLS_SIGN pGRAMMA_SIGN lINDICTION_SIGN mSTRUMENTAL_NOTATION_SYMBOL-1 a1 b2
  b3 b4 b7 b8 b9 c2 a3 b4 b5 b6 b7 b9 c30 b2 b6 b7 b8 b9 c4 a0 b2 b3 b5 b7 b8 b9 c5 a0 b1 b2 b3 b4
  c7 b8 zfKAI_SYMBOL iPPA_SYMBOL lORONIS gYATHOS_BASE_SIGN rLETTER_ARCHAIC_KOPPA nDIGAMMA hKOPPA
  fSAMPI eMALL_CAPITAL_GAMMA fLAMDA fOMEGA fPI bSI dRHO qTIGMA gYOT jITRA_SIGN jOWER_NUMERAL_SIGN
  rUNATE_EPSILON_SYMBOL oSIGMA_SYMBOL tMETRETES_SIGN mUSICAL_LEIMMA oNUMERAL_SIGN mOBOL_SIGN
  iNE_HALF_SIGN a_ALTERNATE_FORM yQUARTER_SIGN pUNKIA_SIGN kXIA ePERISPOMENI kHI_SYMBOL jI_SYMBOL
  iROSGEGRAMMENI nSILI a_AND_OXIA ePERISPOMENI lVARIA pQUESTION_MARK nREVERSED_LUNATE_EPSILON_SYMBOL
  zeHO_SYMBOL gWITH_STROKE_SYMBOL wSINUSOID_SIGN mMALL_DOTTED_LUNATE_SIGMA_SYMBOL zbLETTER_ALPHA
  a_WITH_DASIA a_AND_OXIA a_AND_YPOGEGRAMMENI wPERISPOMENI a_AND_YPOGEGRAMMENI zeVARIA
  a_AND_YPOGEGRAMMENI xYPOGEGRAMMENI xMACRON gOXIA a_AND_YPOGEGRAMMENI wPERISPOMENI
  a_AND_YPOGEGRAMMENI zdSILI a_AND_OXIA a_AND_YPOGEGRAMMENI wPERISPOMENI a_AND_YPOGEGRAMMENI zeVARIA
  a_AND_YPOGEGRAMMENI xYPOGEGRAMMENI xTONOS fVARIA a_AND_YPOGEGRAMMENI wRACHY gYPOGEGRAMMENI
  xRCHAIC_KOPPA fSAMPI nBETA eCHI dDELTA eIGAMMA hEPSILON a_WITH_DASIA a_AND_OXIA eVARIA pOXIA
  ePSILI a_AND_OXIA eVARIA pTONOS fVARIA rTA a_WITH_DASIA a_AND_OXIA a_AND_YPOGEGRAMMENI
  wPERISPOMENI a_AND_YPOGEGRAMMENI zeVARIA a_AND_YPOGEGRAMMENI xYPOGEGRAMMENI xOXIA
  a_AND_YPOGEGRAMMENI wPERISPOMENI a_AND_YPOGEGRAMMENI zdSILI a_AND_OXIA a_AND_YPOGEGRAMMENI
  wPERISPOMENI a_AND_YPOGEGRAMMENI zeVARIA a_AND_YPOGEGRAMMENI xYPOGEGRAMMENI xTONOS fVARIA
  a_AND_YPOGEGRAMMENI xYPOGEGRAMMENI wFINAL_SIGMA lGAMMA fHETA eIOTA a_WITH_DASIA a_AND_OXIA
  ePERISPOMENI lVARIA oIALYTIKA a_AND_OXIA ePERISPOMENI lTONOS fVARIA tMACRON gOXIA ePERISPOMENI
  kSILI a_AND_OXIA ePERISPOMENI lVARIA pTONOS fVARIA eRACHY qKAPPA eOPPA fLAMDA fMU cNU cOMEGA
  a_WITH_DASIA a_AND_OXIA a_AND_YPOGEGRAMMENI wPERISPOMENI a_AND_YPOGEGRAMMENI zeVARIA
  a_AND_YPOGEGRAMMENI xYPOGEGRAMMENI xOXIA a_AND_YPOGEGRAMMENI wPERISPOMENI a_AND_YPOGEGRAMMENI
  zdSILI a_AND_OXIA a_AND_YPOGEGRAMMENI wPERISPOMENI a_AND_YPOGEGRAMMENI zeVARIA a_AND_YPOGEGRAMMENI
  xYPOGEGRAMMENI xTONOS fVARIA a_AND_YPOGEGRAMMENI xYPOGEGRAMMENI wICRON a_WITH_DASIA a_AND_OXIA
  eVARIA pOXIA ePSILI a_AND_OXIA eVARIA pTONOS fVARIA sPAMPHYLIAN_DIGAMMA rHI cI bSI dRHO
  a_WITH_DASIA fPSILI oSAMPI dN cHO cIGMA eTIGMA gTAU cHETA fUPSILON a_WITH_DASIA a_AND_OXIA
  ePERISPOMENI lVARIA oIALYTIKA a_AND_OXIA ePERISPOMENI lTONOS fVARIA tMACRON gOXIA ePERISPOMENI
  kSILI a_AND_OXIA ePERISPOMENI lVARIA pTONOS fVARIA eRACHY tXI cZETA
  lREVERSED_DOTTED_LUNATE_SIGMA_SYMBOL zbLUNATE_SIGMA_SYMBOL ziUBSCRIPT_SMALL_LETTER_BETA eCHI
  dGAMMA fPHI dRHO zYMBOL_TAU_RHO oTALENT_SIGN kHETA_SYMBOL kREE_OBOLS_SIGN kQUARTERS_SIGN sONOS
  eRYBLION_BASE_SIGN rWO_OBOLS_SIGN kTHIRDS_SIGN pUPSILON_WITH_ACUTE_AND_HOOK_SYMBOL
  vDIAERESIS_AND_HOOK_SYMBOL zHOOK_SYMBOL yVARIA eOCAL_NOTATION_SYMBOL-1 a0 b1 b2 b3 b4 b5 b6 b7 b8
  b9 c2 a0 b1 b2 b3 b4 c3 b4 b5 a0 b1 b2 b3 b4 c6 b7 b8 b9 xXESTES_SIGN lYEAR_SIGN iPOGEGRAMMENI
  nZERO_SIGN lN_APPLE fBOOK eHEART fSALAD jIMACING_FACE lNNING_CAT_FACE_WITH_SMILING_EYES zbFACE
  a_WITH_ONE_LARGE_AND_ONE_SMALL_EYE zcSMILING_EYES lTAR_EYES zbOUP_MARK eSEPARATOR mWING_HEART mS
  bUARANI_SIGN iDSMAN hIDE_DOG gTAR eJARATI_ABBREVIATION_SIGN rDIGIT_EIGHT fFIVE dOUR eNINE eONE
  dSEVEN eIX dTHREE eWO dZERO kLETTER_A aA bI bU cBA bHA dCA bHA dDA bDA bHA dHA dE bGA bHA dHA cI
  aI cJA bHA dKA bHA dLA bLA dMA cNA bGA cNA cYA dO bPA bHA dRA cSA bHA cSA dTA bHA cTA bHA eU aU
  cVA bOCALIC_L aL cR aR kYA cZHA kOM cRUPEE_SIGN kSIGN_ANUSVARA hVAGRAHA iCANDRABINDU
  kIRCLE_NUKTA_ABOVE sMADDAH gNUKTA fSHADDA fUKUN fTHREE-DOT_NUKTA_ABOVE uWO-CIRCLE_NUKTA_ABOVE
  wVIRAMA eSARGA mVOWEL_CANDRA_E bO iSIGN_AA bI bU cCANDRA_E bO iE bI aI cO bU aU cVOCALIC_L aL cR
  aR zdNJALA_GONDI_DIGIT_EIGHT fFIVE dOUR eNINE eONE dSEVEN eIX dTHREE eWO dZERO kLETTER_A aA bI bU
  cBA bHA dCA bHA dDA bDA bHA dHA dEE cGA bHA dHA cI aI cJA bHA dKA bHA dLA bLA dMA cNA bGA dOO cPA
  bHA dRA cSA cTA bHA cTA bHA eU aU cVA cYA jOM cSIGN_ANUSVARA iVISARGA mVIRAMA fOWEL_SIGN_AA bI bU
  cEE cI aI cOO cU aU zRMUKHI_ABBREVIATION_SIGN qDDAK fDIGIT_EIGHT fFIVE dOUR eNINE eONE dSEVEN eIX
  dTHREE eWO dZERO kEK_ONKAR iIRI dLETTER_A aA bI bU cBA bHA dCA bHA dDA bDA bHA dHA dEE cFA cGA bHA
  bHA eHA cI aI cJA bHA dKA bHA bHA eLA bLA dMA cNA bGA cNA cYA dOO cPA bHA dRA bRA dSA bHA dTA bHA
  cTA bHA eU aU cVA cYA cZA jSIGN_ADAK_BINDI kBINDI fNUKTA fUDAAT fVIRAMA eSARGA hYAKASH lTIPPI fURA
  dVOWEL_SIGN_AA bI bU cEE cI aI cOO cU aU wHADES dIR_SPACE gCUT fLFWIDTH_BLACK_SQUARE
  mDOWNWARDS_ARROW pFORMS_LIGHT_VERTICAL uHANGUL_FILLER gLETTER_A aE cCHIEUCH gIEUC fE aO bU cHIEUH
  fI aEUNG fKHIEUKH gIYEOK a-SIOS lMIEUM fNIEUN a-CIEUC fHIEUH lO aE cPHIEUPH gIEUP a-SIOS kRIEUL
  a-HIEUH fKIYEOK gMIEUM fPHIEUPH gIEUP fSIOS eTHIEUTH nSIOS dSANGCIEUC fKIYEOK gPIEUP fSIOS eTIKEUT
  lTHIEUTH gIKEUT gU bWA aE cE aO cI cYA aE cE aO cI bO bU qIDEOGRAPHIC_COMMA fFULL_STOP
  vKATAKANA_LETTER_A bE bHA bE bI bO bU cI bKA bE bI bO bU cMA bE bI bO bU cN aA bE bI bO bU cO bRA
  bE bI bO bU cSA bE bI bMALL_A bE bI bO bTU cU bYA bO bU hO bU cTA bE bI bO bU cU bWA bO cYA bO bU
  jMIDDLE_DOT kSEMI-VOICED_SOUND_MARK wVOICED_SOUND_MARK s-HIRAGANA_PROLONGED_SOUND_MARK
  znLEFT_CORNER_BRACKET pWARDS_ARROW pRIGHT_CORNER_BRACKET pWARDS_ARROW qUPWARDS_ARROW nWHITE_CIRCLE
  uMBURGER gMER a_AND_PICK eSICKLE gWRENCH oSA bTER_FACE kND_WITH_INDEX_AND_MIDDLE_FINGERS_CROSSED
  zbFINGER_AND_THUMB_CROSSED zlBAG bLL eSHAKE gGUL_CHOSEONG_CEONGCHIEUMCHIEUCH gIEUC fSIOS
  dSANGCIEUC fSIOS tHIEUCH a-HIEUH fKHIEUKH mTUEUMCHIEUCH gIEUC fSIOS dSANGCIEUC fSIOS qIEUC a-IEUNG
  lFILLER gHIEUH a-SIOS kIEUNG a-CHIEUCH gIEUC fHIEUH fKIYEOK gMIEUM fPANSIOS gHIEUPH gIEUP fRIEUL
  fSIOS eTHIEUTH gIKEUT mKAPYEOUNMIEUM fPHIEUPH gIEUP fRIEUL fSSANGPIEUP rHIEUKH gIYEOK a-TIKEUT
  nMIEUM a-KIYEOK gPIEUP fSIOS eTIKEUT mNIEUN a-CIEUC fHIEUH fKIYEOK gPIEUP fSIOS eTIKEUT mPANSIOS
  gHIEUPH a-HIEUH fPIEUP mIEUP a-CHIEUCH gIEUC fHIEUH fKHIEUKH gIYEOK gNIEUN fPHIEUPH hSIOS a-CIEUC
  fKIYEOK gPIEUP fTHIEUTH gIKEUT kSANGSIOS jTHIEUTH gIKEUT mRIEUL a-CIEUC fHIEUH fKAPYEOUNPIEUP
  mHIEUKH gIYEOK gMIEUM fNIEUN fPIEUP fSIOS dSANGKIYEOK gPIEUP fTIKEUT lTIKEUT mSIOS a-CHIEUCH gIEUC
  fHIEUH fIEUNG fKHIEUKH gIYEOK gMIEUM fNIEUN fPHIEUPH gIEUP a-KIYEOK mRIEUL fSSANGSIOS jTHIEUTH
  gIKEUT kSANGCIEUC a-HIEUH lHIEUH fIEUNG fKIYEOK gNIEUN fPIEUP fRIEUL fSIOS a-PIEUP kTHIEUTH gIKEUT
  gYEORINHIEUH qTHIEUTH gIKEUT a-CIEUC fKIYEOK gMIEUM fPIEUP fRIEUL fSIOS lYEORINHIEUH jSIEUNG
  rDOUBLE_DOT_TONE_MARK uFILLER gJONGSEONG_CHIEUCH gIEUC a-PIEUP fSSANGPIEUP qHIEUH a-MIEUM fNIEUN
  fPIEUP fRIEUL lIEUNG a-KHIEUKH gIYEOK gSSANGKIYEOK rKAPYEOUNMIEUM fPHIEUPH gIEUP fRIEUL mHIEUKH
  gIYEOK a-CHIEUCH hHIEUH fKHIEUKH hNIEUN fPIEUP fRIEUL fSIOS a-KIYEOK sMIEUM a-CHIEUCH gIEUC fHIEUH
  fKIYEOK gNIEUN fPANSIOS gIEUP a-SIOS kRIEUL fSIOS dSANGNIEUN fSIOS pNIEUN a-CHIEUCH gIEUC fHIEUH
  fKIYEOK gPANSIOS hRIEUL fSIOS eTHIEUTH gIKEUT mPANSIOS a-KAPYEOUNPIEUP nPIEUP mHIEUPH a-PIEUP
  fSIOS eTHIEUTH oIEUP a-CHIEUCH gIEUC fHIEUH fMIEUM fPHIEUPH hRIEUL a-PHIEUPH nSIOS a-TIKEUT
  lTIKEUT mRIEUL a-HIEUH fKAPYEOUNPIEUP mHIEUKH gIYEOK a-HIEUH fSIOS lMIEUM a-HIEUH fKIYEOK gSIOS
  kNIEUN fPANSIOS gHIEUPH gIEUP a-HIEUH fPHIEUPH hSIOS eTIKEUT mSIOS dSANGKIYEOK gSIOS jTHIEUTH
  gIKEUT a-HIEUH mYEORINHIEUH a-HIEUH pSIEUNG oSIOS a-CHIEUCH gIEUC fHIEUH fKAPYEOUNPIEUP mIYEOK
  gMIEUM fPANSIOS gIEUP fRIEUL fTHIEUTH gIKEUT kSANGCIEUC fIEUNG fKIYEOK gMIEUM fNIEUN fPIEUP fRIEUL
  a-KHIEUKH nSIOS a-KIYEOK gTIKEUT lTIKEUT a-PIEUP mYESIEUNG nTHIEUTH gIKEUT a-CHIEUCH gIEUC fKIYEOK
  gPIEUP fRIEUL fSIOS a-KIYEOK lTHIEUTH oYEORINHIEUH jSIEUNG a-HIEUH fKHIEUKH gIYEOK gMIEUM fPANSIOS
  hSIOS dSANGKIYEOK zeUNGSEONG_A a-EU cO bU cE bRAEA a-A bE aO cI bU hE aO a-EU cO bU dU a-A bE aO
  bU cO bU eFILLER gI a-A aRAEA fEU cI bO a-I dU bYA a-O cE cE aO cO bU eO a-E aO cO a-I dU bYA aE
  cE aO eE cSSANGARAEA kU a-A aE cEO-EU fI-I dU bYE aO fWA aE cE aO cI cYA a-O bU bYO dE cE aO a-O
  bU bYA fI a-U dO a-A aE cEO cI bO bYA aE cEO fU a-A aE cE aO cI bO bU bYE aO qLETTER_A aE bRAEA aE
  gCHIEUCH gIEUC fE aO bU cHIEUH fI aEUNG fKAPYEOUNMIEUM fPHIEUPH gIEUP fSSANGPIEUP rHIEUKH gIYEOK
  a-SIOS lMIEUM a-PANSIOS gIEUP fSIOS kNIEUN a-CIEUC fHIEUH fPANSIOS hSIOS eTIKEUT mO aE cPANSIOS
  gHIEUPH gIEUP a-CIEUC fKIYEOK gSIOS a-KIYEOK gTIKEUT lTHIEUTH gIKEUT mRIEUL a-HIEUH fKIYEOK a-SIOS
  lMIEUM fPANSIOS gHIEUPH gIEUP a-SIOS kSIOS eTHIEUTH gIKEUT gYEORINHIEUH rSIOS a-CIEUC fKIYEOK
  gNIEUN fPIEUP fTIKEUT kSANGCIEUC fHIEUH fIEUNG fKIYEOK gNIEUN fPIEUP fSIOS eTIKEUT lTHIEUTH gIKEUT
  gU bWA aE cE aO cI cYA aE cE aO aRINHIEUH jSIEUNG a-PANSIOS hSIOS mI bO a-I bYA aE fU a-I bYE aO
  nSINGLE_DOT_TONE_MARK xZHOU_NUMERAL_EIGHT fFIVE dOUR eNINE eONE dSEVEN eIX dTEN cHIRTY eREE eWENTY
  eO rIFI_ROHINGYA_DIGIT_EIGHT fFIVE dOUR eNINE eONE dSEVEN eIX dTHREE eWO dZERO kLETTER_A bBA cCA
  cDA bDA dFA cGA cHA cJA cKA bHA cINNA_WA cYA iLA cMA cNA bGA cYA dPA cRA bRA dSA bHA dTA bTA dVA
  cWA cYA cZA jMARK_NA_KHONNA jSAKIN kSIGN_HARBAHAY iTAHALA eNA cSSI kVOWEL_A bE bI bO bU
  uUNOO_LETTER_A bBA cDA cGA cHA cI bKA cLA cMA cNA bGA dPA cRA cSA cTA cU bWA cYA jSIGN_PAMUDPOD
  nVOWEL_SIGN_I bU sPPY_PERSON_RAISING_ONE_HAND zcRD_DISK hTCHING_CHICK lRAN_LETTER_ALEPH eYN dBETH
  eDALETH-RESH lGIMEL fHE aTH eKAPH eLAMEDH gMEM dNUN dPE cQOPH eSADHE dMEKH fHIN eTAW cETH eWAW
  dYODH eZAYN lNUMBER_FIVE eONE a_HUNDRED lTEN cWENTY tEADPHONE fSTONE a_GRAVEYARD_SYMBOL
  xR-NO-EVIL_MONKEY pT_DECORATION kHANDS fWITH_ARROW fRIBBON gTIP_ON_THE_LEFT xVY_AMPERSAND_ORNAMENT
  rRROW_SHAFT_WIDTH_ONE a_HALF eTHIRD jTWO_THIRDS zcSTERISK iBALLOT_X
  hLACK_CURVED_DOWNWARDS_AND_RIGHTWARDS_ARROW zfUPWARDS_AND_RIGHTWARDS_ARROW zkHEART
  g-FEATHERED_NORTH_EAST_ARROW qRIGHTWARDS_ARROW qSOUTH_EAST_ARROW zhCHECK_MARK hVRON_SNOWFLAKE
  qIRCLE a_WITH_CIRCLE_INSIDE nSTROKE_AND_TWO_DOTS_ABOVE zgD_SALTIRE
  oONCAVE-POINTED_BLACK_RIGHTWARDS_ARROW znDASHED_TRIANGLE-HEADED_RIGHTWARDS_ARROW znIVISION_SIGN
  mOLLAR_SIGN jUBLE_COMMA_QUOTATION_MARK_ORNAMENT zeTURNED_COMMA_QUOTATION_MARK_ORNAMENT
  zqWNWARDS_ARROW_WITH_EQUILATERAL_ARROWHEAD vLARGE_EQUILATERAL_ARROWHEAD zxEIGHT_POINTED_BLACK_STAR
  kPINWHEEL_STAR nRECTILINEAR_BLACK_STAR zfSPOKED_ASTERISK pTEARDROP-SPOKED_PROPELLER_ASTERISK
  zoQUALS_SIGN kXCLAMATION_MARK_ORNAMENT iSYMBOL xFIVE_POINTED_BLACK_STAR sSPOKED_ASTERISK
  tOUR_BALLOON-SPOKED_ASTERISK zdGREEK_CROSS lHEART_EXCLAMATION_MARK_ORNAMENT zfORIZONTAL_FILL
  pINTERROBANG_ORNAMENT uLARGE_CIRCLE kTIN_CROSS kEFT-POINTING_ANGLE_BRACKET_ORNAMENT
  qQUOTATION_MARK_ORNAMENT zoWARDS_ARROW_WITH_EQUILATERAL_ARROWHEAD vLARGE_EQUILATERAL_ARROWHEAD
  zwIGATURE_OPEN_ET_ORNAMENT yOW_DOUBLE_COMMA_QUOTATION_MARK_ORNAMENT
  zlSINGLE_COMMA_QUOTATION_MARK_ORNAMENT zmER_RIGHT-SHADOWED_WHITE_RIGHTWARDS_ARROW zsMINUS_SIGN
  jULTIPLICATION_X qNORTH_EAST_ARROW fPOINTING_BUD dVINE_LEAF xWEST_POINTING_BUD dVINE_LEAF
  zeOPEN_CENTRE_CROSS qUTLINED_BLACK_STAR sVAL_WITH_OVAL_INSIDE vPLUS_SIGN
  jRIGHT-POINTING_ANGLE_BRACKET_ORNAMENT qQUOTATION_MARK_ORNAMENT zoWARDS_ARROW
  a_WITH_EQUILATERAL_ARROWHEAD vLARGE_EQUILATERAL_ARROWHEAD zxOUND-TIPPED_RIGHTWARDS_ARROW zeSALTIRE
  fNS-SERIF_INTERROBANG_ORNAMENT zfCRIPT_LIGATURE_ET_ORNAMENT zbINGLE_COMMA_QUOTATION_MARK_ORNAMENT
  zeTURNED_COMMA_QUOTATION_MARK_ORNAMENT zqX_POINTED_BLACK_STAR sSPOKED_ASTERISK sOUTH_EAST_ARROW
  fPOINTING_BUD dVINE_LEAF xWEST_POINTING_BUD dVINE_LEAF zdPARKLE hTEARDROP-SHANKED_RIGHTWARDS_ARROW
  xPOKED_ASTERISK iPINWHEEL_ASTERISK zhRIANGLE-HEADED_RIGHTWARDS_ARROW zgWELVE_POINTED_BLACK_STAR
  kPINWHEEL_STAR zdUPPER_RIGHT-SHADOWED_WHITE_RIGHTWARDS_ARROW
  zqWARDS_ARROW_WITH_EQUILATERAL_ARROWHEAD vLARGE_EQUILATERAL_ARROWHEAD zvVERTICAL_BAR
  mWEDGE-TAILED_RIGHTWARDS_ARROW zdHITE_CIRCLE gDOWN-POINTING_TRIANGLE wSQUARE
  lIDE-HEADED_RIGHTWARDS_ARROW zhBREW_ACCENT_ATNAH_HAFUKH mDARGA eEHI eETNAHTA hGERESH a_MUQDAM
  kSHAYIM jILUY eMAHAPAKH hERKHA a_KEFULA mUNAH fOLE dPASHTA eZER fQADMA dRNEY_PARA lREVIA fSEGOL
  eHALSHELET kTELISHA_GEDOLA gQETANA mVIR eIPEHA gYERAH_BEN_YOMO mTIV fZAQEF_GADOL fQATAN jRQA eINOR
  mLETTER_ALEF a_WITH_MAPIQ fPATAH fQAMATS oTERNATIVE_AYIN ePLUS_SIGN uYIN eBET a_WITH_DAGESH gRAFE
  nDALET a_WITH_DAGESH rFINAL_KAF a_WITH_DAGESH pMEM dNUN dPE a_WITH_DAGESH oTSADI lGIMEL
  a_WITH_DAGESH rHE a_WITH_MAPIQ lT dKAF a_WITH_DAGESH gRAFE nLAMED a_WITH_DAGESH rMEM a_WITH_DAGESH
  pNUN a_WITH_DAGESH pPE a_WITH_DAGESH gRAFE mQOF a_WITH_DAGESH pRESH a_WITH_DAGESH qSAMEKH
  a_WITH_DAGESH rHIN a_WITH_DAGESH a_AND_SHIN_DOT hIN_DOT sSHIN_DOT hIN_DOT rTAV a_WITH_DAGESH oET
  a_WITH_DAGESH oSADI a_WITH_DAGESH rVAV a_WITH_DAGESH gHOLAM oWIDE_ALEF eDALET fFINAL_MEM jHE cKAF
  dLAMED fRESH eTAV iYOD a_WITH_DAGESH gHIRIQ oZAYIN a_WITH_DAGESH xIGATURE_ALEF_LAMED
  kYIDDISH_DOUBLE_VAV dYOD kVAV_YOD hYOD_YOD_PATAH zfMARK_LOWER_DOT jMASORA_CIRCLE nUPPER_DOT
  oPOINT_DAGESH_OR_MAPIQ pHATAF_PATAH fQAMATS gSEGOL kIRIQ eOLAM a_HASER_FOR_VAV
  tJUDEO-SPANISH_VARIKA uMETEG fPATAH fQAMATS a_QATAN lUBUTS gRAFE eSEGOL eHEVA dIN_DOT hIN_DOT
  hTSERE kUNCTUATION_GERESH dSHAYIM jMAQAF fNUN_HAFUKHA lPASEQ fSOF_PASUQ vYOD_TRIANGLE rDGEHOG
  gLICOPTER hLSCHREIBER_PAUSE_SYMBOL xM_SYMBOL hET_WITH_WHITE_CROSS vNTAIGANA_LETTER_A-1 b2 b3 bWO
  eE-1 b2 b3 b4 b5 b6 dHA-1 a0 b1 c2 b3 b4 b5 b6 b7 b8 b9 dE-1 b2 b3 b4 b5 b6 b7 dI-1 b2 b3 b4 b5 b6
  b7 dO-1 b2 b3 b4 b5 b6 b7 b8 dU-1 b2 b3 eI-1 b2 b3 b4 dKA-1 a0 b1 c2 b3 b4 b5 b6 b7 b8 b9 bKE eE-1
  b2 b3 b4 b5 b6 dI-1 b2 b3 b4 b5 b6 b7 b8 dO-1 b2 b3 bKI eU-1 b2 b3 b4 b5 b6 b7 eMA-1 b2 b3 b4 b5
  b6 b7 dE-1 b2 bMA eI-1 b2 b3 b4 b5 b6 b7 dO-1 b2 b3 b4 b5 b6 dU-1 b2 b3 b4 eN-MU-MO-1 b2 iA-1 b2
  b3 b4 b5 b6 b7 b8 b9 dE-1 b2 b3 b4 b5 b6 bKO eI-1 b2 b3 b4 b5 b6 b7 bTE eO-1 b2 b3 b4 b5 dU-1 b2
  b3 eO-1 b2 b3 dRA-1 b2 b3 b4 dE-1 b2 b3 b4 dI-1 b2 b3 b4 b5 b6 b7 dO-1 b2 b3 b4 b5 b6 dU-1 b2 b3
  b4 b5 b6 eSA-1 b2 b3 b4 b5 b6 b7 b8 dE-1 b2 b3 b4 b5 dI-1 b2 b3 b4 b5 b6 dO-1 b2 b3 b4 b5 b6 b7
  dU-1 b2 b3 b4 b5 b6 b7 b8 eTA-1 b2 b3 b4 dE-1 b2 b3 b4 b5 b6 b7 b8 b9 dI-1 b2 b3 b4 b5 b6 b7 dO-1
  b2 b3 b4 b5 b6 bRA eU-1 b2 b3 b4 bTO fU-1 b2 b3 b4 b5 dWA-1 b2 b3 b4 b5 dE-1 b2 b3 b4 dI-1 b2 b3
  b4 b5 dO-1 b2 b3 b4 b5 b6 b7 eYA-1 b2 b3 b4 b5 bYO eO-1 b2 b3 b4 b5 b6 dU-1 b2 b3 b4 uRB
  bMITIAN_CONJUGATE_MATRIX yXAGRAM_FOR_ABUNDANCE iFTER_COMPLETION pPPROACH iBEFORE_COMPLETION
  qITING_THROUGH nREAKTHROUGH mCOMING_TO_MEET mNFLICT fTEMPLATION nDARKENING_OF_THE_LIGHT vECREASE
  gLIVERANCE jVELOPMENT kIFFICULTY_AT_THE_BEGINNING zSPERSION jURATION iENTHUSIASM kFELLOWSHIP
  jOLLOWING jGATHERING_TOGETHER rRACE dEAT_POSSESSION iWER eREPONDERANCE nTAMING mHOLDING_TOGETHER
  qINCREASE gFLUENCE hNER_TRUTH iOCENCE jLIMITATION kMODESTY fUTH_CORNERS nOBSTRUCTION kPPOSITION
  hRESSION kPEACE eROGRESS hUSHING_UPWARD oRETREAT eURN eVOLUTION kSMALL_PREPONDERANCE nTAMING
  lPLITTING_APART oTANDSTILL kTHE_ABYSMAL_WATER mRMY cOUSING_THUNDER qCAULDRON hLINGING_FIRE
  mREATIVE_HEAVEN pFAMILY gGENTLE_WIND lJOYOUS_LAKE lKEEPING_STILL_MOUNTAIN wMARRYING_MAIDEN
  pRECEPTIVE_EARTH pWANDERER hELL hREADING iWAITING gORK_ON_THE_DECAYED tYOUTHFUL_FOLLY zbIBISCUS
  gGH_BRIGHTNESS_SYMBOL rOCTET_PRESET mVOLTAGE_SIGN n-HEELED_SHOE lSPEED_TRAIN a_WITH_BULLET_NOSE
  zgKING_BOOT jNDU_TEMPLE kPPOPOTAMUS kRAGANA_DIGRAPH_YORI mITERATION_MARK oLETTER_A aRCHAIC_WU cYE
  kBA bE bI bO bU cDA bE bI bO bU cE bGA bE bI bO bU cHA bE bI bO bU cI bKA bE bI bO bU cMA bE bI bO
  bU cN aA bE bI bO bU cO bPA bE bI bO bU cRA bE bI bO bU cSA bE bI bMALL_A bE bI bKA bE cO bTU cU
  bWA bE bI bO cYA bO bU hO bU cTA bE bI bO bU cU bVU cWA bE bI bO cYA bO bU cZA bE bI bO bU
  jVOICED_ITERATION_MARK zdSTORIC_SITE mOCHO dLE bLOW_QUILT_SQUARE_ORNAMENT a_IN_BLACK_SQUARE
  zrMOTHETIC iNEY_POT eBEE gOK cP bRIZONTAL_BAR cLACK_HEXAGON hOCTAGON nELLIPSIS iLINE_EXTENSION
  oMALE_WITH_STROKE_SIGN vONE_EIGHTH_BLOCK-1358 e2 b3 b4 b5 b6 b7 sSCAN_LINE-1 b3 b7 b9 lTAB_KEY
  eULATION a_SET dWITH_JUSTIFICATION zdRAFFIC_LIGHT vSE a_FACE eRACING kSPITAL gT_BEVERAGE iDOG
  dPEPPER gSPRINGS iEL dURGLASS a_WITH_FLOWING_SAND ySE a_BUILDING aS jWITH_GARDEN qRYVNIA_SIGN lT
  aJ bS cUGGING_FACE kNDRED_POINTS_SYMBOL tSHED_FACE jT cYGIEA ePHEN a_BULLET gWITH_DIAERESIS
  p-MINUS gATION_POINT oODIASTOLE kSTERESIS_SYMBOL rI_LOVE_YOU_HAND_SIGN tCE_CREAM eUBE
  eHOCKEY_STICK_AND_PUCK vSKATE iDENTICAL_TO a_AND_SLANTED_PARALLEL xWITH_DOT_ABOVE sFICATION_CARD
  qOGRAPHIC_ANNOTATION_BOTTOM_MARK lEARTH_MARK kFIRST_MARK jOUR_MARK fTH_MARK lHEAVEN_MARK
  lLINKING_MARK mMAN_MARK hIDDLE_MARK lONE_MARK iREVERSE_MARK mSECOND_MARK lTHIRD_MARK iREE_MARK
  jOP_MARK hWO_MARK tCLOSING_MARK lOMMA fDEPARTING_TONE_MARK rSCRIPTION_CHARACTER_ABOVE_TO_BELOW
  fMIDDLE_AND_BELOW zFULL_SURROUND nLEFT_TO_MIDDLE_AND_RIGHT qRIGHT nOVERLAID iSURROUND_FROM_ABOVE
  fBELOW fLEFT dOWER_LEFT kUPPER_LEFT eRIGHT zwENTERING_TONE_MARK sFULL_STOP jHALF_FILL_SPACE
  pITERATION_MARK oLEVEL_TONE_MARK pNUMBER_ZERO lRISING_TONE_MARK qSPACE fTALLY_MARK_FIVE dOUR eONE
  dTHREE eWO nELEGRAPH_LINE_FEED_SEPARATOR_SYMBOL zbSYMBOL_FOR_APRIL eUGUST gDAY_EIGHT aEEN hLEVEN
  gFIFTEEN fVE dOUR aTEEN iNINE aTEEN iONE dSEVEN aTEEN iIX aTEEN hTEN cHIRTEEN dY a-ONE iREE eWELVE
  dNTY a-EIGHT fFIVE dOUR eNINE eONE dSEVEN eIX dTHREE eWO iO gECEMBER iFEBRUARY iHOUR_EIGHT aEEN
  hLEVEN gFIFTEEN fVE dOUR aTEEN iNINE aTEEN iONE dSEVEN aTEEN iIX aTEEN hTEN cHIRTEEN gREE eWELVE
  dNTY a-FOUR eONE dTHREE eWO iO dZERO jJANUARY gULY cNE eMARCH dY dNOVEMBER iOCTOBER hSEPTEMBER
  zfVARIATION_INDICATOR zfMAGE_OF a_OR_APPROXIMATELY_EQUAL_TO zhP aERIAL_ARAMAIC_LETTER_ALEPH eYIN
  eBETH eDALETH gGIMEL fHE aTH eKAPH eLAMEDH gMEM dNUN dPE cQOPH eRESH eSADHE dMEKH fHIN eTAW cETH
  eWAW dYODH eZAYIN mNUMBER_ONE a_HUNDRED hTHOUSAND mTEN a_THOUSAND lHREE eWENTY eO kSECTION_SIGN
  zdNBOX_TRAY iCOMING_ENVELOPE mPLETE_INFINITY qREASE_FONT_SIZE_SYMBOL rS_AS hMENT hD aEX
  a_POINTING_AT_THE_VIEWER zIAN_RUPEE_SIGN nC_SIYAQ_ALTERNATE_LAKH_MARK tFRACTION_ONE_HALF eQUARTER
  lTHREE_QUARTERS xLAKH_MARK jNUMBER_ALTERNATE_ONE dTEN_THOUSAND lWO nEIGHT a_HUNDRED hTHOUSAND jY
  a_THOUSAND pFIFTY a_THOUSAND mVE a_HUNDRED hTHOUSAND mORTY a_THOUSAND mUR a_HUNDRED hTHOUSAND
  nKAROR aAN hLAKH aAN gNINE a_HUNDRED hTHOUSAND jTY a_THOUSAND pONE a_HUNDRED hTHOUSAND
  mPREFIXED_EIGHT fFIVE dOUR eNINE eONE dSEVEN eIX dTHREE eWO mSEVEN a_HUNDRED hTHOUSAND jTY
  a_THOUSAND pIX a_HUNDRED hTHOUSAND jTY a_THOUSAND oTEN a_THOUSAND lHIRTY a_THOUSAND nREE a_HUNDRED
  hTHOUSAND nWENTY a_THOUSAND nO a_HUNDRED hTHOUSAND tPLACEHOLDER lRUPEE_MARK uFINITY
  a_NEGATED_WITH_VERTICAL_BAR zgORMATION_DESK_PERSON lSEPARATOR_FOUR eONE dTHREE eWO mOURCE
  qHIBIT_ARABIC_FORM_SHAPING tSYMMETRIC_SWAPPING yPUT_SYMBOL_FOR_LATIN_CAPITAL_LETTERS pLETTERS
  hSMALL_LETTERS tNUMBERS hSYMBOLS wSCRIPTIONAL_PAHLAVI_LETTER_ALEPH fBETH eDALETH gGIMEL fHE aTH
  eKAPH eLAMEDH gMEM-QOPH iNUN dPE cSADHE dMEKH fHIN eTAW cETH eWAW-AYIN-RESH nYODH eZAYIN
  mNUMBER_FOUR eONE a_HUNDRED hTHOUSAND mTEN cHREE eWENTY eO qRTHIAN_LETTER_ALEPH eYIN eBETH eDALETH
  gGIMEL fHE aTH eKAPH eLAMEDH gMEM dNUN dPE cQOPH eRESH eSADHE dMEKH fHIN eTAW cETH eWAW dYODH
  eZAYIN mNUMBER_FOUR eONE a_HUNDRED hTHOUSAND mTEN cHREE eWENTY eO zfERTION_SYMBOL oTEGRAL
  a_AROUND_A_POINT_OPERATOR wVERAGE_WITH_SLASH sEXTENSION jWITH_DOUBLE_STROKE nINTERSECTION
  mLEFTWARDS_ARROW_WITH_HOOK zOVERBAR hTIMES_SIGN kUNDERBAR gION pRCALATE gIOR_PRODUCT
  lLINEAR_ANNOTATION_ANCHOR gSEPARATOR jTERMINATOR zcOCKED_FEMALE_AND_MALE_SIGN zcROBANG gSECTION
  a_ABOVE_BAR_ABOVE_UNION pUNION lBESIDE_AND_JOINED_WITH_INTERSECTION zkWITH_DOT dLOGICAL_AND
  lOVERBAR xVERSE_BULLET gCHECK_MARK fER_BOARD_FILL sDOWNWARDS_ARROW_WITH_TIP_LEFTWARDS
  zjMEDIUM_SHADE mWHITE_CIRCLE pTED_EXCLAMATION_MARK qINTERROBANG lLAZY_S fOW_KAVYKA
  a_WITH_KAVYKA_ABOVE zdOHM_SIGN iPENTAGRAM jQUESTION_MARK nUNDERTIE oISIBLE_PLUS eSEPARATOR jTIMES
  oZAKAYA_LANTERN pJACK-O-LANTERN mPANESE_BANK_SYMBOL lCASTLE gDOLLS fGOBLIN
  gINDUSTRIAL_STANDARD_SYMBOL zbOGRE ePOST_OFFICE lSYMBOL_FOR_BEGINNER zbR
  bVANESE_CONSONANT_SIGN_CAKRA fKERET fPENGKAL wDIGIT_EIGHT fFIVE dOUR eNINE eONE dSEVEN eIX dTHREE
  eWO dZERO kLEFT_RERENGGAN mTTER_A aI cBA a_MURDA iCA a_MURDA iDA a_MAHAPRANA lDA a_MAHAPRANA nE
  bGA a_MURDA iHA cI a_KAWI fI cJA a_MAHAPRANA mKA a_MURDA fSASAK iLA cMA cNA a_MURDA hGA a_LELET
  a_RASWADI qYA a_MURDA jO bPA a_CEREK fMURDA iRA a_AGUNG iSA a_MAHAPRANA iURDA iTA a_MURDA hTA
  a_MAHAPRANA nU bWA cYA jPADA_ADEG a_ADEG iNDAP fISEN-ISEN jLINGSA fUHUR dNGSI gMADYA fPANGKAT
  gISELEH hTIRTA_TUMETES nWINDU iNGKON dRANGKEP lRIGHT_RERENGGAN pSIGN_CECAK a_TELU kLAYAR
  fPANYANGGA jWIGNYAN mTURNED_PADA_PISELEH tVOWEL_SIGN_DIRGA_MURE kPEPET fSUKU a_MENDUT lTALING
  eRUNG fOLONG gWULU a_MELIK zeEANS eIGSAW_PUZZLE_PIECE sOIN cYSTICK hUGGLING gNO cPITER hKAABA
  dITHI_ABBREVIATION_SIGN rDANDA eOUBLE_DANDA fSECTION_MARK tENUMERATION_SIGN qLETTER_A aA bI bU cBA
  bHA dCA bHA dDA bDA bDHA dHA dHA dE bGA bHA dHA cI aI cJA bHA dKA bHA dLA cMA cNA bGA cNA cYA dO
  bPA bHA dRA bHA dSA bHA cSA dTA bHA cTA bHA eU aU cVA cYA jNUMBER_SIGN a_ABOVE rSECTION_MARK
  lIGN_ANUSVARA iCANDRABINDU lNUKTA fVIRAMA eSARGA mVOWEL_SIGN_AA bI bU cE bI aI cO bU aU cVOCALIC_R
  zNGAROO eXI_RADICAL_AGAIN eND cRRIVE dOW eXE dBADGER eMBOO fEAN dIG bRD cTTER fLACK dOOD dUE dOAT
  cDY cLT_OF_CLOTH lNE cW cRANCH eISTLE fUSH fCART cULDRON gVE dHILD eITY dLAN bW cIFF dOTHES gOLOR
  dMPARE fRPSE eVER dW dDEATH dER dIPPER eSH bTINGUISH jVINATION jO_NOT eG bOR cT aTED_CLIFF fTENT
  jUBLE_X gWN_BOX hRAGON eUM cY dEAR aTH dT cIGHT eMBROIDERY jNCLOSURE hTER eVEN aING gYE dFACE cNG
  cTHER fEATHER gIELD dGHT dRE cSH dLUTE dY cOOT dRAGRANT gOG dUR dGATE dHOST eO a_SLOWLY hLD dRAIN
  cSS fHAIR cLBERD eF_TREE_TRUNK nND dEAD bRT dMP dIDING_ENCLOSURE pOOK cRN bSE fICE cNCH cSECT
  gJADE cR dKNIFE fLACK cME dEAF bTHER fEK cGS dID bFE cNE dONG a_STRIDE lMAN cEAT cLON eILLET
  eNISTER hOON cRNING eTAR eUND bTAIN fTH fNET cOSE cT dOLD cNE aSELF gPEN_BOX gPOSE gPIG cLOW dOWER
  eRIVATE fOFOUND iRAIN cP bT cED cICE cGHT_OPEN_BOX mVER eOOF dUN dSACRIFICIAL_WINE oLT cY cCHOLAR
  fRIPT fEAL cCOND eE bLF dHEEP cLL dOOT cRT_TAILED_BIRD kHREAD lICKNESS gLK dKIN dLASH cVE dICE
  eMALL eNOUT eOUND ePEAR cECH eIRIT eOON dROUT fQUARE fTAND dEAM cP cONE cP aPING hUN cWEET fTABLE
  dLL cNNED_LEATHER nEN cIGER dLE dONGUE eOTH eRACK dEE cIPOD fURBAN dTLE fWO a_HANDS jUSE dVALLEY
  fILLAGE hWALK a_ENCLOSURE mTER eEAPON eST dHEAT dITE eIND bE dOMAN dRK dRAP cONG fYELLOW
  sNADA_AI_LENGTH_MARK oDIGIT_EIGHT fFIVE dOUR eNINE eONE dSEVEN eIX dTHREE eWO dZERO kLENGTH_MARK
  jTTER_A aA bI bU cBA bHA dCA bHA dDA bDA bHA dHA dE aE cFA cGA bHA dHA cI aI cJA bHA dKA bHA dLA
  bLA bLA eMA cNA aKAARA_POLLU mGA cNA cYA dO aO cPA bHA dRA bRA dSA bHA cSA dTA bHA cTA bHA eU aU
  cVA bOCALIC_L aL cR aR kYA jSIGN_ANUSVARA hVAGRAHA iCANDRABINDU lJIHVAMULIYA lNUKTA fSIDDHAM
  gPACING_CANDRABINDU tUPADHMANIYA lVIRAMA eSARGA mVOWEL_SIGN_AA bI bU cE aE cI aI cO aO cU aU
  cVOCALIC_L aL cR aR zcTAKANA_DIGRAPH_KOTO mITERATION_MARK oLETTER_A aRCHAIC_E bWU cYE bI kBA bE bI
  bO bU cDA bE bI bO bU cE bGA bE bI bO bU cHA bE bI bO bU cI bKA bE bI bO bU cMA bE bI
  aNNAN_NASALIZED_TONE-1 b2 b3 b4 b5 b7 b8 qTONE-2 b3 b4 b5 b7 b8 mO bU cN aA bE bI bO bU cO bPA bE
  bI bO bU cRA bE bI bO bU cSA bE bI bMALL_A bE bHA bE bI bO bU cI bKA bE bU cMU cN aU cO bRA bE bI
  bO bU cSI bU cTO bU cU bWA bE bI bO cYA bO bU hO bU cTA bE bI bO bU cU bVA bE bI bO bU cWA bE bI
  bO cYA bO bU cZA bE bI bO bU jMIDDLE_DOT kVOICED_ITERATION_MARK w-HIRAGANA_DOUBLE_HYPHEN
  nPROLONGED_SOUND_MARK uSEMI-VOICED_SOUND_MARK wVOICED_SOUND_MARK ziYAH_LI_DIGIT_EIGHT fFIVE dOUR
  eNINE eONE dSEVEN eIX dTHREE eWO dZERO kLETTER_A bBA cCA cDA cGA cHA bTA dI bKA bHA dLA cMA cNA
  bGA cYA dOE bO cPA bHA dRA cSA bHA dTA bHA dVA cWA cYA cZA jSIGN_CWI dSHYA jTONE_CALYA a_PLOPHU
  mPLOPHU lVOWEL_E aE cO bU aE qELVIN_SIGN jY aBOARD a_AND_MOUSE pCAP_TEN jHAROSHTHI_DIGIT_FOUR eONE
  dTHREE eWO jFRACTION_ONE_HALF rLETTER_A bBA bHA dCA bHA dDA bDA bHA dHA dGA bHA dHA cJA cKA bHA
  cKA dLA cMA cNA bNA cYA dPA bHA dRA cSA bHA cSA dTA bHA cTA bHA cTA bHA fVA bHA dYA cZA
  jNUMBER_ONE_HUNDRED hTHOUSAND mTEN cWENTY nPUNCTUATION_CIRCLE fRESCENT_BAR mDANDA eOT bUBLE_DANDA
  mLINES eOTUS fMANGALAM iSMALL_CIRCLE ySIGN_ANUSVARA iBAR_ABOVE jCAUDA fDOT_BELOW hUBLE_RING_BELOW
  rVISARGA mVIRAMA fOWEL_LENGTH_MARK lSIGN_E bI bO bU bVOCALIC_R zeITAN_SMALL_SCRIPT_CHARACTER-18B00
  b1 b2 b3 b4 b5 b6 b7 b8 b9 bA bB bC bD bE bF c10 b1 b2 b3 b4 b5 b6 b7 b8 b9 bA bB bC bD bE bF c20
  b1 b2 b3 b4 b5 b6 b7 b8 b9 bA bB bC bD bE bF c30 b1 b2 b3 b4 b5 b6 b7 b8 b9 bA bB bC bD bE bF c40
  b1 b2 b3 b4 b5 b6 b7 b8 b9 bA bB bC bD bE bF c50 b1 b2 b3 b4 b5 b6 b7 b8 b9 bA bB bC bD bE bF c60
  b1 b2 b3 b4 b5 b6 b7 b8 b9 bA bB bC bD bE bF c70 b1 b2 b3 b4 b5 b6 b7 b8 b9 bA bB bC bD bE bF c80
  b1 b2 b3 b4 b5 b6 b7 b8 b9 bA bB bC bD bE bF c90 b1 b2 b3 b4 b5 b6 b7 b8 b9 bA bB bC bD bE bF cA0
  b1 b2 b3 b4 b5 b6 b7 b8 b9 bA bB bC bD bE bF cB0 b1 b2 b3 b4 b5 b6 b7 b8 b9 bA bB bC bD bE bF cC0
  b1 b2 b3 b4 b5 b6 b7 b8 b9 bA bB bC bD bE bF cD0 b1 b2 b3 b4 b5 b6 b7 b8 b9 bA bB bC bD bE bF cE0
  b1 b2 b3 b4 b5 b6 b7 b8 b9 bA bB bC bD bE bF cF0 b1 b2 b3 b4 b5 b6 b7 b8 b9 bA bB bC bD bE bF dC00
  b1 b2 b3 b4 b5 b6 b7 b8 b9 bA bB bC bD bE bF c10 b1 b2 b3 b4 b5 b6 b7 b8 b9 bA bB bC bD bE bF c20
  b1 b2 b3 b4 b5 b6 b7 b8 b9 bA bB bC bD bE bF c30 b1 b2 b3 b4 b5 b6 b7 b8 b9 bA bB bC bD bE bF c40
  b1 b2 b3 b4 b5 b6 b7 b8 b9 bA bB bC bD bE bF c50 b1 b2 b3 b4 b5 b6 b7 b8 b9 bA bB bC bD bE bF c60
  b1 b2 b3 b4 b5 b6 b7 b8 b9 bA bB bC bD bE bF c70 b1 b2 b3 b4 b5 b6 b7 b8 b9 bA bB bC bD bE bF c80
  b1 b2 b3 b4 b5 b6 b7 b8 b9 bA bB bC bD bE bF c90 b1 b2 b3 b4 b5 b6 b7 b8 b9 bA bB bC bD bE bF cA0
  b1 b2 b3 b4 b5 b6 b7 b8 b9 bA bB bC bD bE bF cB0 b1 b2 b3 b4 b5 b6 b7 b8 b9 bA bB bC bD bE bF cC0
  b1 b2 b3 b4 b5 b6 b7 b8 b9 bA bB bC bD bE bF cD0 b1 b2 b3 b4 b5 pFILLER yMER_CURRENCY_SYMBOL_RIEL
  uDIGIT_EIGHT fFIVE dOUR eNINE eONE dSEVEN eIX dTHREE eWO dZERO kINDEPENDENT_VOWEL_LY aY dQAA bI bQ
  bU cE bI aI cOO_TYPE_ONE dTWO lU aK bU aV eRY aY vLETTER_BA cCA bHA bO cO cDA bO cHA cKA bHA bO cO
  cLA bO cMO cNGO cNO cO bYO dPHA bO cO cQA cRO cSA bHA cSO dTA bHA bO cO bTHA bO eVO cYO
  jSIGN_AHSDA eTTHACAN hVAKRAHASANYA nBANTOC eRIYOOSAN iTHAMASAT jEYYAL gCAMNUC_PII_KUUH oOENG
  fKAKABAT gHAN dOOMUUT hLEK_TOO hMUUSIKATOAN lNIKAHIT hPHNAEK_MUAN lREAHMUK gOBAT fSAMYOK_SANNYA
  nTOANDAKHIAT kRIISAP hVIRIAM gYUUKALEAPINTU rYMBOL_BEI_KOET eROC gUON_KOET eROC iDAP_KOET eROC
  e-BEI_KOET eROC gUON_KOET eROC iMUOY_KOET eROC iPII_KOET eROC gRAM_KOET eROC mLEK_ATTAK_BEI cUON
  eMUOY ePII cRAM a-BEI cUON eMUOY ePII iSON nMUOY_KOET eROC iPATHAMASAT jII_KOET eROC gRAM_KOET
  eROC e-BEI_KOET eROC gUON_KOET eROC iMUOY_KOET eROC iPII_KOET eROC mTUTEYASAT qVOWEL_INHERENT_AA
  bQ lSIGN_AA bE bI bU cE bI aE bI cOE bO cU aA bU cY aA bY rOJKI_ABBREVIATION_SIGN rDANDA
  eOUBLE_DANDA fSECTION_MARK tLETTER_A aA bI bU cBA bBA cHA dCA bHA dDA bDA bDA cHA dHA dE bGA bGA
  cHA dHA cI bJA bJA dKA bHA dLA bLA dMA cNA bGA cNA cYA dO bPA bHA dRA cSA cTA bHA cTA bHA eU bVA
  cYA jSECTION_MARK lIGN_ANUSVARA iNUKTA fSHADDA fUKUN fVIRAMA lVOWEL_SIGN_AA bI bU cE bI aI cO bU
  mWORD_SEPARATOR tUDAWADI_DIGIT_EIGHT fFIVE dOUR eNINE eONE dSEVEN eIX dTHREE eWO dZERO kLETTER_A
  aA bI bU cBA bBA cHA dCA bHA dDA bDA bDA cHA dHA dE bGA bGA cHA dHA cI aI cJA bHA cJA dKA bHA dLA
  cMA cNA bGA cNA cYA dO bPA bHA dRA bRA dSA bHA dTA bHA cTA bHA eU aU cVA cYA jSIGN_ANUSVARA iNUKTA
  fVIRAMA lVOWEL_SIGN_AA bI bU cE bI aI cO bU aU wIMONO eP_SIGN gSS a_MARK
  fING_CAT_FACE_WITH_CLOSED_EYES zFACE a_WITH_CLOSED_EYES lSMILING_EYES zdTE cWIFRUIT
  iNEELING_PERSON nOT dOALA dREAN_STANDARD_SYMBOL vRONOS gL_B_BAR_SYMBOL nAB_COAT fEL
  dCROSSE_STICK_AND_BALL vDDER dY_BEETLE jNGUAGE_TAG kO_CANCELLATION_MARK rDIGIT_EIGHT fFIVE dOUR
  eNINE eONE dSEVEN eIX dTHREE eWO dZERO kELLIPSIS iHO_MO cNO fKO_LA fLETTER_BO cCO cDO cFO_FAY cON
  dSUNG eTAM gHO_SUNG eTAM gKHMU_GO cNYO gO_SUNG eTAM gO cLO a_LING dOOT hMO cNGO cO bYO dO
  bPALI_BHA dCHA dDDA bHA dHA dGHA dJHA dLLA dNNA cYA dTTA bHA iHO_SUNG eTAM gO cRO cSANSKRIT_SHA
  cSA lO_SUNG eTAM gTHO_SUNG eTAM gO cWO cYO jNIGGAHITA jSEMIVOWEL_SIGN_LO cNYO rIGN_PALI_VIRAMA
  qTONE_MAI_CATAWA gEK cTHO cI lVOWEL_SIGN_A aA bI bM bY cE aI cI aI cMAI_KAN cON hO bU aU cY aY
  pRGE_BLUE_CIRCLE gDIAMOND hSQUARE kROWN_CIRCLE gSQUARE mCIRCLE gDOWN_TACK jGREEN_CIRCLE gSQUARE
  mLEFT_TRIANGLE_OPERATOR wONE_DOT_OVER_TWO_DOTS_PUNCTUATION zeRING_OVER_TWO_RINGS_PUNCTUATION
  zjRANGE_CIRCLE gDIAMOND hSQUARE nPURPLE_CIRCLE gSQUARE nRED_CIRCLE gSQUARE
  kTRIPLE_VERTICAL_BAR_OPERATOR zcWO_DOTS_OVER_ONE_DOT_PUNCTUATION zeRINGS_OVER_ONE_RING_PUNCTUATION
  zkUP_TACK hYELLOW_CIRCLE gSQUARE oR_THAN a_OR_EQUAL_TO uI_SIGN hST_QUARTER_MOON a_SYMBOL
  gWITH_FACE zTIN_CAPITAL_LETTER_A a_WITH_ACUTE fBREVE a_AND_ACUTE fDOT_BELOW jGRAVE fHOOK_ABOVE
  kTILDE pCARON eIRCUMFLEX a_AND_ACUTE fDOT_BELOW jGRAVE fHOOK_ABOVE kTILDE uDIAERESIS a_AND_MACRON
  tOT_ABOVE a_AND_MACRON qBELOW hUBLE_GRAVE mGRAVE fHOOK_ABOVE kINVERTED_BREVE oMACRON gOGONEK
  gRING_ABOVE a_AND_ACUTE pBELOW kSTROKE gTILDE lA bE a_WITH_ACUTE fMACRON nFRICAN_D iLPHA
  eNGLICANA_W kO bU bV a_WITH_HORIZONTAL_BAR vY cB a_WITH_DOT_ABOVE fBELOW jFLOURISH iHOOK
  eLINE_BELOW kSTROKE gTOPBAR mETA dROKEN_L iC a_WITH_ACUTE fBAR dCARON eEDILLA a_AND_ACUTE
  qIRCUMFLEX kDOT_ABOVE jHOOK ePALATAL_HOOK mSTROKE mHI cLOSED_INSULAR_G pON cUATRILLO a_WITH_COMMA
  uD a_WITH_CARON eEDILLA gIRCUMFLEX_BELOW qDOT_ABOVE fBELOW jHOOK eLINE_BELOW kSHORT_STROKE_OVERLAY
  tMALL_LETTER_Z a_WITH_CARON yTROKE gTOPBAR mZ a_WITH_CARON nE a_WITH_ACUTE fBREVE fCARON eEDILLA
  a_AND_BREVE qIRCUMFLEX a_AND_ACUTE fDOT_BELOW jGRAVE fHOOK_ABOVE kTILDE jBELOW qDIAERESIS
  iOT_ABOVE fBELOW hUBLE_GRAVE mGRAVE fHOOK_ABOVE kINVERTED_BREVE oMACRON a_AND_ACUTE fGRAVE qOGONEK
  gSTROKE gTILDE a_BELOW rGYPTOLOGICAL_AIN cLEF rNG cSH cT aH cZH a_REVERSED iWITH_CARON oF
  a_WITH_DOT_ABOVE jHOOK eSTROKE nG a_WITH_ACUTE fBREVE fCARON eEDILLA gIRCUMFLEX kDOT_ABOVE jHOOK
  eMACRON gOBLIQUE_STROKE oSTROKE mAMMA eHA cLOTTAL_A bI bSTOP eU jH a_WITH_BREVE_BELOW lCARON
  eEDILLA gIRCUMFLEX kDESCENDER iIAERESIS iOT_ABOVE fBELOW jHOOK eSTROKE mALF_H fENG dWAIR fI
  a_WITH_ACUTE fBREVE fCARON eIRCUMFLEX kDIAERESIS a_AND_ACUTE sOT_ABOVE fBELOW hUBLE_GRAVE mGRAVE
  fHOOK_ABOVE kINVERTED_BREVE oMACRON gOGONEK gSTROKE gTILDE a_BELOW rNSULAR_D bF bG bR bS bT iOTA
  dS cJ a_WITH_CIRCUMFLEX jROSSED-TAIL mSTROKE nK a_WITH_ACUTE fCARON eEDILLA hDESCENDER
  iIAGONAL_STROKE oOT_BELOW jHOOK eLINE_BELOW kOBLIQUE_STROKE oSTROKE a_AND_DIAGONAL_STROKE ziL
  a_WITH_ACUTE fBAR cELT eCARON eEDILLA gIRCUMFLEX_BELOW qDOT_BELOW a_AND_MACRON sUBLE_BAR
  kHIGH_STROKE lLINE_BELOW kMIDDLE_DOT dTILDE mSMALL_LETTER_J nTROKE mJ cM a_WITH_ACUTE fDOT_ABOVE
  fBELOW jHOOK kIDDLE_SCOTS_S i-WELSH_LL cV oN a_WITH_ACUTE fCARON eEDILLA gIRCUMFLEX_BELOW
  qDESCENDER iOT_ABOVE fBELOW jGRAVE fLEFT_HOOK iINE_BELOW jONG_RIGHT_LEG oOBLIQUE_STROKE
  oSMALL_LETTER_J oTILDE lJ cO a_WITH_ACUTE fBREVE fCARON eIRCUMFLEX a_AND_ACUTE fDOT_BELOW jGRAVE
  fHOOK_ABOVE kTILDE uDIAERESIS a_AND_MACRON tOT_ABOVE a_AND_MACRON qBELOW hUBLE_ACUTE fGRAVE mGRAVE
  fHOOK_ABOVE iRN a_AND_ACUTE fDOT_BELOW jGRAVE fHOOK_ABOVE kTILDE oINVERTED_BREVE
  oLONG_STROKE_OVERLAY rOP eMACRON a_AND_ACUTE fGRAVE pIDDLE_TILDE mOGONEK a_AND_MACRON rSTROKE
  a_AND_ACUTE qTILDE a_AND_ACUTE fDIAERESIS jMACRON wI bLD_POLISH_O lMEGA eO bPEN_E bO fU cP
  a_WITH_ACUTE fDOT_ABOVE jFLOURISH iHOOK eSQUIRREL_TAIL mTROKE a_THROUGH_DESCENDER zgQ
  a_WITH_DIAGONAL_STROKE pSTROKE_THROUGH_DESCENDER zgR a_ROTUNDA hWITH_ACUTE fCARON eEDILLA
  hDOT_ABOVE fBELOW a_AND_MACRON sUBLE_GRAVE mINVERTED_BREVE oLINE_BELOW kOBLIQUE_STROKE oSTROKE
  gTAIL kEVERSED_C_WITH_DOT kE bHALF_H gOPEN_E oUM_ROTUNDA lS a_WITH_ACUTE a_AND_DOT_ABOVE tCARON
  a_AND_DOT_ABOVE sEDILLA gIRCUMFLEX jOMMA_BELOW lDOT_ABOVE fBELOW a_AND_DOT_ABOVE xHOOK
  eOBLIQUE_STROKE oSHORT_STROKE_OVERLAY tWASH_TAIL qALTILLO hCHWA dRIPT_G hHARP_S gIGMOID_S
  iMALL_CAPITAL_I jQ_WITH_HOOK_TAIL wT a_WITH_CARON eEDILLA gIRCUMFLEX_BELOW pOMMA_BELOW
  lDIAGONAL_STROKE oOT_ABOVE fBELOW jHOOK eLINE_BELOW kRETROFLEX_HOOK oSTROKE mHORN a_WITH_STROKE
  a_THROUGH_DESCENDER zjONE_FIVE eSIX dTWO hRESILLO hURNED_A aLPHA fH bINSULAR_G jK bL bM bT bV hZ
  cU a_BAR dWITH_ACUTE fBREVE fCARON eIRCUMFLEX a_BELOW qDIAERESIS a_AND_ACUTE fCARON fGRAVE fMACRON
  kBELOW oOT_BELOW hUBLE_ACUTE fGRAVE mGRAVE fHOOK_ABOVE iRN a_AND_ACUTE fDOT_BELOW jGRAVE
  fHOOK_ABOVE kTILDE oINVERTED_BREVE oMACRON a_AND_DIAERESIS uOGONEK gRING_ABOVE kSTROKE gTILDE
  a_AND_ACUTE jBELOW rPSILON hV a_WITH_DIAGONAL_STROKE oOT_BELOW jHOOK eTILDE lEND dISIGOTHIC_Z
  lOLAPUK_AE cOE cUE jY cW a_WITH_ACUTE fCIRCUMFLEX kDIAERESIS iOT_ABOVE fBELOW jGRAVE fHOOK kYNN eX
  a_WITH_DIAERESIS iOT_ABOVE qY a_WITH_ACUTE fCIRCUMFLEX kDIAERESIS iOT_ABOVE fBELOW jGRAVE fHOOK
  a_ABOVE kLOOP eMACRON gSTROKE gTILDE lOGH eZ a_WITH_ACUTE fCARON eIRCUMFLEX kDESCENDER iOT_ABOVE
  fBELOW jHOOK eLINE_BELOW kPALATAL_HOOK mSTROKE fWASH_TAIL xIGATURE_IJ cOE sROSS
  fEPIGRAPHIC_LETTER_ARCHAIC_M jI_LONGA gNVERTED_M kREVERSED_F bP kSIDEWAYS_I zdLETTER_AIN
  cLVEOLAR_CLICK oBIDENTAL_PERCUSSIVE rLABIAL_CLICK fPERCUSSIVE tDENTAL_CLICK mGLOTTAL_STOP
  a_WITH_STROKE yINVERTED_GLOTTAL_STOP a_WITH_CURL eSTROKE ziLATERAL_CLICK
  nPHARYNGEAL_VOICED_FRICATIVE zcRETROFLEX_CLICK a_WITH_RETROFLEX_HOOK ziVERSED_ESH_LOOP
  iGLOTTAL_STOP_WITH_STROKE ziSINOLOGICAL_DOT oMALL_CAPITAL_A aE cB aARRED_B iC bD bE aTH cZH dF bG
  a_WITH_HOOK lH bI aNVERTED_R kJ bK bL a_WITH_BELT eSTROKE nM bN bO aE bPEN_O fU cP bQ bR
  a_WITH_RIGHT_LEG pEVERSED_N bR jUM dS bT aURNED_E bG bK bM bR iU bV bW bY bZ oTRETCHED_C
  a_WITH_CURL vTWO_WITH_STROKE pVOICED_LARYNGEAL_SPIRANT yWYNN eYR
  jSMALL_CAPITAL_LETTER_I_WITH_STROKE nU_WITH_STROKE zdLETTER_A a_REVERSED-SCHWA oWITH_ACUTE fBREVE
  a_AND_ACUTE fDOT_BELOW jGRAVE fHOOK_ABOVE kTILDE pCARON eIRCUMFLEX a_AND_ACUTE fDOT_BELOW jGRAVE
  fHOOK_ABOVE kTILDE uDIAERESIS a_AND_MACRON tOT_ABOVE a_AND_MACRON qBELOW hUBLE_GRAVE mGRAVE
  fHOOK_ABOVE kINVERTED_BREVE oMACRON gOGONEK gRETROFLEX_HOOK nIGHT_HALF_RING nNG_ABOVE a_AND_ACUTE
  pBELOW kSTROKE gTILDE lA bE a_WITH_ACUTE fMACRON nLPHA a_WITH_RETROFLEX_HOOK yNGLICANA_W kO bU bV
  a_WITH_HORIZONTAL_BAR vY cB a_WITH_DOT_ABOVE fBELOW jFLOURISH iHOOK eLINE_BELOW kMIDDLE_TILDE
  mPALATAL_HOOK mSTROKE gTOPBAR mARRED_ALPHA fE bO gSELINE_ESH lETA dLACKLETTER_E bO a_WITH_STROKE
  yOTTOM_HALF_O mROKEN_L iC a_WITH_ACUTE fBAR dCARON eEDILLA a_AND_ACUTE qIRCUMFLEX jURL eDOT_ABOVE
  jHOOK ePALATAL_HOOK mRETROFLEX_HOOK oSTROKE mHI a_WITH_LOW_LEFT_SERIF kRIGHT_RING wLOSED_INSULAR_G
  jOMEGA ePEN_E gREVERSED_OPEN_E vON cUATRILLO a_WITH_COMMA uD a_WITH_CARON eEDILLA gIRCUMFLEX_BELOW
  pURL eDOT_ABOVE fBELOW jHOOK a_AND_TAIL nLINE_BELOW kMIDDLE_TILDE mPALATAL_HOOK
  mSHORT_STROKE_OVERLAY tTROKE gTAIL dOPBAR mB_DIGRAPH jELTA dZH_DIGRAPH a_WITH_PALATAL_HOOK
  mRETROFLEX_HOOK zgOTLESS_I bJ a_WITH_STROKE a_AND_HOOK zdUBLE_R a_WITH_CROSSED-TAIL tTHORN fWYNN
  kUM cZ a_DIGRAPH a_WITH_CURL eRETROFLEX_HOOK zcWITH_CARON nE a_WITH_ACUTE fBREVE fCARON eEDILLA
  a_AND_BREVE qIRCUMFLEX a_AND_ACUTE fDOT_BELOW jGRAVE fHOOK_ABOVE kTILDE jBELOW qDIAERESIS
  iOT_ABOVE fBELOW hUBLE_GRAVE mFLOURISH iGRAVE fHOOK_ABOVE kINVERTED_BREVE oMACRON a_AND_ACUTE
  fGRAVE qNOTCH fOGONEK gRETROFLEX_HOOK oSTROKE gTILDE a_BELOW rGYPTOLOGICAL_AIN cLEF rNG
  a_WITH_CROSSED-TAIL mPALATAL_HOOK uSH a_WITH_CURL eDOUBLE_BAR a_AND_CURL tPALATAL_HOOK
  mRETROFLEX_HOOK wT aH cZH a_REVERSED iWITH_CARON eURL ePALATAL_HOOK mRETROFLEX_HOOK oTAIL nF
  a_WITH_DOT_ABOVE jHOOK eMIDDLE_TILDE mPALATAL_HOOK mSTROKE mENG_DIGRAPH a_WITH_TRILL xG
  a_WITH_ACUTE fBREVE fCARON eEDILLA gIRCUMFLEX kDOT_ABOVE jHOOK eMACRON gOBLIQUE_STROKE
  oPALATAL_HOOK mSTROKE mAMMA eHA cLOTTAL_A bI bSTOP eU jH a_WITH_BREVE_BELOW lCARON eEDILLA
  gIRCUMFLEX kDESCENDER iIAERESIS iOT_ABOVE fBELOW jHOOK eLINE_BELOW kPALATAL_HOOK mSTROKE mALF_H
  fENG a_WITH_HOOK nV cI a_WITH_ACUTE fBREVE fCARON eIRCUMFLEX kDIAERESIS a_AND_ACUTE sOT_BELOW
  hUBLE_GRAVE mGRAVE fHOOK_ABOVE kINVERTED_BREVE oMACRON gOGONEK gRETROFLEX_HOOK oSTROKE
  a_AND_RETROFLEX_HOOK zTILDE a_BELOW rNSULAR_D bF bG bR bS bT hVERTED_ALPHA fOE kOTA a_WITH_STROKE
  nIFIED_E jS cJ a_WITH_CARON eIRCUMFLEX jROSSED-TAIL mSTROKE nK a_WITH_ACUTE fCARON eEDILLA
  hDESCENDER iIAGONAL_STROKE oOT_BELOW jHOOK eLINE_BELOW kOBLIQUE_STROKE oPALATAL_HOOK mSTROKE
  a_AND_DIAGONAL_STROKE zhRA dL a_WITH_ACUTE fBAR cELT a_AND_PALATAL_HOOK vCARON eEDILLA
  gIRCUMFLEX_BELOW pURL eDOT_BELOW a_AND_MACRON sUBLE_BAR dMIDDLE_TILDE tFISHHOOK iHIGH_STROKE
  lINVERTED_LAZY_S pLINE_BELOW kMIDDLE_DOT dRING eTILDE mPALATAL_HOOK mRETROFLEX_HOOK a_AND_BELT
  xSTROKE mAMBDA_WITH_STROKE rENIS_F fZH a_WITH_RETROFLEX_HOOK xJ bONG_S a_WITH_DIAGONAL_STROKE
  oOT_ABOVE jHIGH_STROKE wS_DIGRAPH jUM cZ_DIGRAPH kM a_WITH_ACUTE fCROSSED-TAIL mDOT_ABOVE fBELOW
  jHOOK eMIDDLE_TILDE mPALATAL_HOOK sIDDLE_SCOTS_S i-WELSH_LL cV nUM dN a_PRECEDED_BY_APOSTROPHE
  wWITH_ACUTE fCARON eEDILLA gIRCUMFLEX_BELOW pROSSED-TAIL lURL eDESCENDER iOT_ABOVE fBELOW jGRAVE
  fLEFT_HOOK iINE_BELOW jONG_RIGHT_LEG oMIDDLE_TILDE mOBLIQUE_STROKE oPALATAL_HOOK mRETROFLEX_HOOK
  oTILDE lJ bUM dO a_WITH_ACUTE fBREVE fCARON eIRCUMFLEX a_AND_ACUTE fDOT_BELOW jGRAVE fHOOK_ABOVE
  kTILDE uDIAERESIS a_AND_MACRON tOT_ABOVE a_AND_MACRON qBELOW hUBLE_ACUTE fGRAVE mGRAVE fHOOK_ABOVE
  iRN a_AND_ACUTE fDOT_BELOW jGRAVE fHOOK_ABOVE kTILDE oINVERTED_BREVE oLONG_STROKE_OVERLAY rOP
  cW_RING_INSIDE pMACRON a_AND_ACUTE fGRAVE qOGONEK a_AND_MACRON rRETROFLEX_HOOK oSTROKE a_AND_ACUTE
  qTILDE a_AND_ACUTE fDIAERESIS jMACRON wI bLD_POLISH_O lMEGA eO bPEN_E a_WITH_RETROFLEX_HOOK vO
  a_WITH_RETROFLEX_HOOK oSTROKE mE gU cP a_WITH_ACUTE fDOT_ABOVE jFLOURISH iHOOK eMIDDLE_TILDE
  mPALATAL_HOOK mSQUIRREL_TAIL mTROKE a_THROUGH_DESCENDER zfHI dQ a_WITH_DIAGONAL_STROKE pHOOK
  a_TAIL jSTROKE_THROUGH_DESCENDER zfP_DIGRAPH kR a_ROTUNDA hWITH_ACUTE fCARON eEDILLA gROSSED-TAIL
  mDOT_ABOVE fBELOW a_AND_MACRON sUBLE_GRAVE mFISHHOOK a_AND_MIDDLE_TILDE mPALATAL_HOOK
  zINVERTED_BREVE oLINE_BELOW jONG_LEG iMIDDLE_TILDE mOBLIQUE_STROKE oPALATAL_HOOK mSTROKE gTAIL
  fOUT_HANDLE pAMS_HORN iEVERSED_C a_WITH_DOT kE aNG dHALF_H gK bOPEN_E a_WITH_HOOK eRETROFLEX_HOOK
  zbR_WITH_FISHHOOK pSCRIPT_G qUM a_ROTUNDA lS a_WITH_ACUTE a_AND_DOT_ABOVE tCARON a_AND_DOT_ABOVE
  sEDILLA gIRCUMFLEX jOMMA_BELOW kURL eDOT_ABOVE fBELOW a_AND_DOT_ABOVE xHOOK eMIDDLE_TILDE
  mOBLIQUE_STROKE oPALATAL_HOOK mSHORT_STROKE_OVERLAY tWASH_TAIL qAKHA_YAT hLTILLO hCHWA a_WITH_HOOK
  eRETROFLEX_HOOK xRIPT_G a_WITH_CROSSED-TAIL tR a_WITH_RING rHARP_S gIDEWAYS_DIAERESIZED_U nO
  a_WITH_STROKE mPEN_O gTURNED_M iU iGMOID_S iQUAT_REVERSED_ESH rTIRRUP_R jT a_WITH_CARON eEDILLA
  gIRCUMFLEX_BELOW pOMMA_BELOW kURL eDIAERESIS gGONAL_STROKE oOT_ABOVE fBELOW jHOOK
  a_AND_RETROFLEX_HOOK xLINE_BELOW kMIDDLE_TILDE mPALATAL_HOOK mRETROFLEX_HOOK oSTROKE mAILLESS_PHI
  lC_DIGRAPH_WITH_CURL tESH_DIGRAPH a_WITH_PALATAL_HOOK mRETROFLEX_HOOK zgH_WITH_STRIKETHROUGH tORN
  a_WITH_STROKE a_THROUGH_DESCENDER zjONE_FIVE eSIX dTWO gP_HALF_O jRESILLO hS_DIGRAPH
  a_WITH_RETROFLEX_HOOK zeUM bRNED_A aE bLPHA fDELTA fE bG bH a_WITH_FISHHOOK a_AND_TAIL yI
  aNSULAR_G jK bL bM a_WITH_LONG_LEG pO_OPEN-O a_WITH_STROKE tE a_WITH_HORIZONTAL_STROKE rSTROKE
  nPEN_E gR a_WITH_HOOK eLONG_LEG a_AND_RETROFLEX_HOOK zcMIDDLE_TILDE mPALATAL_HOOK mTAIL lT
  a_WITH_CURL lUI cV bW bY a_WITH_BELT rZ cU a_BAR a_WITH_SHORT_RIGHT_LEG yWITH_ACUTE fBREVE fCARON
  eIRCUMFLEX a_BELOW qDIAERESIS a_AND_ACUTE fCARON fGRAVE fMACRON kBELOW oOT_BELOW hUBLE_ACUTE
  fGRAVE mGRAVE fHOOK_ABOVE iRN a_AND_ACUTE fDOT_BELOW jGRAVE fHOOK_ABOVE kTILDE oINVERTED_BREVE
  oLEFT_HOOK jMACRON a_AND_DIAERESIS uOGONEK gRETROFLEX_HOOK nING_ABOVE kSHORT_RIGHT_LEG oTROKE
  gTILDE a_AND_ACUTE jBELOW rE bI bM bO bPSILON a_WITH_STROKE tV a_WITH_CURL eDIAGONAL_STROKE
  oOT_BELOW jHOOK ePALATAL_HOOK mRIGHT_HOOK kTILDE lEND dISIGOTHIC_Z lOLAPUK_AE cOE cUE jY cW
  a_WITH_ACUTE fCIRCUMFLEX kDIAERESIS iOT_ABOVE fBELOW jGRAVE fHOOK eRING_ABOVE rX a_WITH_DIAERESIS
  iOT_ABOVE jLONG_LEFT_LEG a_AND_LOW_RIGHT_RING sWITH_SERIF wW_RIGHT_RING oPALATAL_HOOK tY
  a_WITH_ACUTE fCIRCUMFLEX kDIAERESIS iOT_ABOVE fBELOW jGRAVE fHOOK a_ABOVE kLOOP eMACRON
  gRING_ABOVE kSHORT_RIGHT_LEG oTROKE gTILDE lOGH eZ a_WITH_ACUTE fCARON eIRCUMFLEX jURL eDESCENDER
  iOT_ABOVE fBELOW jHOOK eLINE_BELOW kMIDDLE_TILDE mPALATAL_HOOK mRETROFLEX_HOOK oSTROKE fWASH_TAIL
  xIGATURE_FF aI bL cI bL cIJ cLONG_S_T iOE cST qUBSCRIPT_SMALL_LETTER_A bE bH bI bJ bK bL bM bN bO
  bP bR bS aCHWA fT bU bV bX zeEAF_FLUTTERING_IN_WIND tY_GREEN jDGER
  eFT_AND_LOWER_AND_RIGHT_TRIANGULAR_THREE_QUARTERS_BLOCK zqONE_EIGHTH_BLOCK wRIGHT_DOUBLE_TURNSTILE
  qTACK dRIANGULAR_HALF_BLOCK zcUPPER_AND_RIGHT_TRIANGULAR_THREE_QUARTERS_BLOCK zqONE_EIGHTH_BLOCK
  yGER_BUBBLE jLE_BRACKET a_WITH_DOT vRC_LESS-THAN_BRACKET tROW_WITH_CIRCLED_PLUS mSMALL_CIRCLE
  xBARB_DOWN_RIGHT_BARB_DOWN_HARPOON mUP_HARPOON zbUP_RIGHT_BARB_DOWN_HARPOON mUP_HARPOON
  zdLACK_LENTICULAR_BRACKET sTORTOISE_SHELL_BRACKET zdCEILING gLOSED_ENTRY lORNER_BRACKET
  nURLY_BRACKET a_LOWER_HOOK kMIDDLE_PIECE mUPPER_HOOK yDOTTED_SUBSTITUTION_BRACKET
  zUBLE_ANGLE_BRACKET nPARENTHESIS lQUOTATION_MARK oWIGGLY_FENCE tFISH_TAIL hVE_EIGHTHS_BLOCK rLOOR
  fHALF_BLACK_CIRCLE gSTAR iOCK fCIRCLE a_WITH_DOT dFOUR_DOTS jTHREE_DOTS jWO_DOTS uFOLDER
  gINVERSE_MEDIUM_SHADE_AND_RIGHT_HALF_BLOCK zqMEDIUM_SHADE mRUNNING_MAN oND_TELEPHONE_RECEIVER
  xLOW_PARAPHRASE_BRACKET vUGGAGE hMULTIMAP iNORMAL_FACTOR_SEMIDIRECT_PRODUCT zhONE_EIGHTH_BLOCK
  mQUARTER_BLOCK qUTER_JOIN kPARENTHESIS a_EXTENSION jLOWER_HOOK kUPPER_HOOK
  wRAISED_OMISSION_BRACKET wIGHT_ARROW a_THROUGH_SMALL_CIRCLE uWITH_DOUBLE_VERTICAL_STROKE wSTROKE
  gVERTICAL_STROKE zbBLACK_ARROW lDOUBLE_ARROW a_WITH_STROKE gVERTICAL_STROKE ziOPEN-HEADED_ARROW
  rSANS-SERIF_ARROW qTRIANGLE-HEADED_ARROW vWAVE_ARROW jHITE_ARROW rS-SHAPED_BAG_DELIMITER
  vEMIDIRECT_PRODUCT qVEN_EIGHTHS_BLOCK sIDEWAYS_U_BRACKET qNGLE_QUOTATION_MARK uPEECH_BUBBLE
  mQUARE_BRACKET a_EXTENSION jLOWER_CORNER mUPPER_CORNER mWITH_DOUBLE_STROKE nQUILL fSTROKE
  gTICK_IN_BOTTOM_CORNER nTOP_CORNER sUNDERBAR zcUBSTITUTION_BRACKET uTACK
  dHIRD_WHITE_RIGHT_POINTING_INDEX zfOUGHT_BUBBLE mREE_EIGHTHS_BLOCK nQUARTERS_BLOCK
  tORTOISE_SHELL_BRACKET vRANSPOSITION_BRACKET tIANGLE_BESIDE_VERTICAL_BAR wULAR_ONE_QUARTER_BLOCK
  zdVERTICAL_BAR_WITH_QUILL nOX_LINE rWHITE_CORNER_BRACKET nURLY_BRACKET nLENTICULAR_BRACKET
  sPARENTHESIS lSQUARE_BRACKET oTORTOISE_SHELL_BRACKET zcIGGLY_FENCE lRITING_HAND
  n-FACING_ARMENIAN_ETERNITY_SIGN wFIST eSVASTI_SIGN a_WITH_DOTS zdHANDED_INTERLACED_PENTAGRAM
  zcPOINTING_ANGLE_BRACKET nCURVED_ANGLE_BRACKET uDOUBLE_ANGLE_QUOTATION_MARK zcMAGNIFYING_GLASS
  zSHADED_WHITE_RIGHTWARDS_ARROW zdIDE_ARC_ANTICLOCKWISE_ARROW zdTO-RIGHT_EMBEDDING jISOLATE hMARK
  eOVERRIDE sWARDS_ARROW a_ABOVE_ALMOST_EQUAL_TO pREVERSE_ALMOST_EQUAL_TO pTILDE_OPERATOR
  wSHORT_RIGHTWARDS_ARROW wTILDE_OPERATOR tND_UPPER_AND_LOWER_ONE_EIGHTH_BLOCK zlFROM_BAR
  a_TO_BLACK_DIAMOND zOVER_RIGHTWARDS_ARROW vTHROUGH_LESS-THAN jSUBSET gX iO_BAR
  a_OVER_RIGHTWARDS_ARROW_TO_BAR zgLACK_DIAMOND qWITH_DOTTED_STEM jUBLE_VERTICAL_STROKE
  wEQUILATERAL_ARROWHEAD vHOOK eLARGE_TRIANGLE_ARROWHEAD xOOP eMEDIUM_TRIANGLE_ARROWHEAD
  zNOTCHED_TAIL mPLUS_BELOW kSMALL_EQUILATERAL_ARROWHEAD vTRIANGLE_ARROWHEAD xTROKE gTAIL
  a_WITH_DOUBLE_VERTICAL_STROKE wVERTICAL_STROKE yIP_DOWNWARDS jUPWARDS lVERTICAL_STROKE v-TAIL
  kBACK-TILTED_SHADOWED_WHITE_ARROW zgLACK_ARROW fCIRCLED_WHITE_ARROW yOTTOM-SHADED_WHITE_ARROW
  zCOMPRESSED_ARROW qDASHED_ARROW lOUBLE_ARROW a_FROM_BAR iWITH_STROKE gVERTICAL_STROKE v-TAIL
  kDASH_ARROW rFINGER-POST_ARROW qRONT-TILTED_SHADOWED_WHITE_ARROW ziHAND
  cRPOON_OVER_RIGHTWARDS_HARPOON xWITH_BARB_DOWN_ABOVE_RIGHTWARDS_HARPOON_WITH_BARB_DOWN
  zoBELOW_LONG_DASH pFROM_BAR iTO_BAR hWARDS jUP_ABOVE_LEFTWARDS_HARPOON_WITH_BARB_DOWN zgONG_DASH
  jRIGHTWARDS_HARPOON_WITH_BARB_UP zmFROM_BAR iTO_BAR hWARDS yEAVY_ARROW fCOMPRESSED_ARROW
  wLEFT-SHADED_WHITE_ARROW xOPEN-HEADED_ARROW rPAIRED_ARROWS nQUADRUPLE_ARROW
  pRIGHT-SHADED_WHITE_ARROW xOCKET gSANS-SERIF_ARROW pQUARED_ARROW kIGGLE_ARROW
  oTOP_SHADED_WHITE_ARROW vRIANGLE_ARROWHEAD k-HEADED_ARROW a_OVER_RIGHTWARDS_TRIANGLE-HEADED_ARROW
  zmTO_BAR gWITH_BOLD_SHAFT kDOUBLE_HORIZONTAL_STROKE rVERTICAL_STROKE wHEAVY_SHAFT
  lLONG_TIP_DOWNWARDS jUPWARDS qMEDIUM_SHAFT mNARROW_SHAFT mVERY_HEAVY_SHAFT zcDASHED_ARROW
  mPAIRED_ARROWS zbPLE_ARROW fDASH_ARROW qWO_HEADED_ARROW n-HEADED_ARROW_FROM_BAR
  iWITH_DOUBLE_VERTICAL_STROKE wTAIL a_WITH_DOUBLE_VERTICAL_STROKE wVERTICAL_STROKE
  yRIANGLE_ARROWHEADS tVERTICAL_STROKE zbTRIPLE_DASH_ARROW zdWAVE_ARROW jHITE_ARROW
  a_WITHIN_TRIANGLE_ARROWHEAD zuG bMON dO aPARD fPCHA_CONSONANT_SIGN_K aANG eL bM bN aYIN-DO hP bR
  bT qDIGIT_EIGHT fFIVE dOUR eNINE eONE dSEVEN eIX dTHREE eWO dZERO kLETTER_A bBA bLA dCA bHA dDA
  bDA cZA dFA bLA dGA bLA dHA bLA dJA cKA bHA cLA dLA cMA bLA dNA bGA cYA dPA bHA cLA dRA cSA bHA
  dTA bHA cSA bHA dTA bHA eVA cWA cYA jPUNCTUATION_CER-WA gNYET_THYOOM_TA-ROL sTA-ROL fSHOOK
  a_CER-WA zSIGN_NUKTA fRAN hUBJOINED_LETTER_RA cYA tVOWEL_SIGN_AA cE bI bO aO cU aU
  sSS-THAN_ABOVE_DOUBLE-LINE_EQUAL_ABOVE_GREATER-THAN zlGREATER-THAN_ABOVE_DOUBLE-LINE_EQUAL
  zlLEFTWARDS_ARROW pSIMILAR_ABOVE_GREATER-THAN sOR_EQUAL
  pLANTED_EQUAL_ABOVE_GREATER-THAN_ABOVE_SLANTED_EQUAL zzhND_NOT_APPROXIMATE
  pSINGLE-LINE_NOT_EQUAL_TO zdBUT_NOT_EQUAL_TO fIVALENT_TO vCLOSED_BY_CURVE a_ABOVE_SLANTED_EQUAL
  zkEQUAL_TO_OR_GREATER-THAN yOR_APPROXIMATE lEQUAL_TO fIVALENT_TO nGREATER-THAN mSLANTED_EQUAL_TO
  a_WITH_DOT_ABOVE a_RIGHT lINSIDE zjVER_EQUAL_TO nSIGN eWITH_CIRCLE_INSIDE nDOT
  dQUESTION_MARK_ABOVE zhVEL_SLIDER lF bIBRA dGATURE_OPEN_ET_ORNAMENT wHT_CHECK_MARK
  kEIGHT_SPOKED_ASTERISK vFIVE_POINTED_BLACK_STAR sSPOKED_ASTERISK tOUR_POINTED_BLACK_CUSP eSTAR
  xGREEK_CROSS lLEFT_TORTOISE_SHELL_BRACKET_ORNAMENT zlRAIL dIGHT_TORTOISE_SHELL_BRACKET_ORNAMENT
  zmSALTIRE gHADE eIX_SPOKED_ASTERISK tTHREE_POINTED_BLACK_STAR xWELVE_POINTED_BLACK_STAR
  zVERTICAL_BAR mWHITE_SQUARE nNING a_MOOD a_BUBBLE tMBU_DIGIT_EIGHT fFIVE dOUR eNINE eONE dSEVEN
  eIX dTHREE eWO dZERO kEXCLAMATION_MARK qLETTER_BA bHA dCA bHA dDA bHA dGA bHA cYAN eHA cJA bHA dKA
  bHA dLA cMA cNA bGA dPA bHA dRA cSA bHA cSA dTA bHA cRA dWA cYA aN kQUESTION_MARK nSIGN_KEMPHRENG
  jLOO dMUKPHRENG jSA-I iMALL_LETTER_ANUSVARA iKA cLA cMA cNA bGA dPA cRA cTA oUBJOINED_LETTER_RA
  cWA cYA tVOWEL_SIGN_A aI bU cE aE cI bO aO cU h-CARRIER_LETTER xITED_LIABILITY_SIGN uNE_FEED
  eINTEGRATION_NOT_INCLUDING_THE_POLE wWITH_RECTANGULAR_PATH_AROUND_POLE
  zdSEMICIRCULAR_PATH_AROUND_POLE zvSEPARATOR jTABULATION a_SET pAR_A_SIGN_A028B e100-102 g20B d31C
  e301 b2 b3 b4 b5 b6 b7 b8 b9A bB bC d10 b1 b2 b3A bB bC c4 b5 b6 b7 b8 b9 c20 b1 b2 b3 b4 b5 b6 b7
  b8 b9 c30 b1 b2 b3 b4 b5 b6 b7 b8 b9 c40 b1 b2 b3 b4 b5 b6 b7 b8 b9 c50 b1 b2 b3 b4 b5 b6 b7 b8 b9
  c60 b1 b2 b3 b4 b5 b6 b7 b8 b9 c70 b1 d400-VAS f1-VAS f2-VAS f3-VAS f4-VAS f5-VAS f6-VAS f7-VAS
  f8-VAS f9-VAS g10-VAS f1-VAS f2-VAS f3-VAS f4-VAS f5-VAS f6-VAS f7-VAS f8-VAS h501 b2 b3 b4 b5 b6
  b8 b9 c10 b1 b2 b3 b5 b6 c20 b1 b3 b4 b5 b6 b7 b8 b9 c30 b1 b2 b4 b5 b6 b7 b8 b9 c40 b1 b2 b5 b7
  b8 b9 c50 b1 b2 b3 b4 b5 b6 b7 b9 c63 b4 b5 b6 b8 b9 c70 b1 b2 b3 b4 b5 b6 b7 b8 b9 c80 b1 b2 b3
  b4 b5 b6 b7 b8 b9 c91 b2 b4 b5 b6 b8 d600 b1 b2 b3 b4 b6 b8 b9 c10 b1 b2 b3 b4 b5 b6 b7 b8 b9 c20
  b1 b2 b3 b4 b6 b7 b8 b9 c34 b7 b8 c40 b2 b3 b4 b5 b6 b8 b9 c51 b2 b3 b4 b5 b6 b7 b8 b9 c60 b1 b2
  b3 b4 d701_A d2_B d3_D d4_E d5_F d6_H d7_J d8_K d9_L c-2_L2 e3_L3 e4_L4 e6_L6 h10_W d1_X d2_Y
  d3_OMEGA h4_ABB f5_BB e7_DD f26_EYYY h32_JE g800 b1 b2 b3 b4 b5 b6 b7 dB001 b2 b3 b4 b5 b6 b7 b8
  b9 c10 b1 b3 b6 b7 c20 b1 aF bM c2 aF bM c3 aM c4 b6 b7 b8 b9 c30 b1 b4 b7 b8 b9 c40 b1 b4 b5 b6
  b7 b8 b9 c50 b1 b3 b4 b5 b6 b7 b8 b9 c60 b1 b5 b6 b7 b9 c70 b3 b4 b6 b7 b8 b9 c80 b1 b2 b5 b6 b7
  d118 c20 b2 b3 c31A bB d64 c71 c80 b8 c91 mB_IDEOGRAM_B100_MAN f2_WOMAN h4_DEER g5_EQUID gF_MARE
  gM_STALLION l6F_EWE fM_RAM g7F_SHE-GOAT kM_HE-GOAT k8F_SOW fM_BOAR h9F_COW fM_BULL i20_WHEAT
  h1_BARLEY i2_OLIVE h3_SPICE h5_CYPERUS k30_OIL f1_WINE g2 c40_BRONZE i1_GOLD g2 b5_WOOL g6 c50
  b1_HORN g2 b3 b4 b7 b8 b9_CLOTH i60 b1 b2_GARMENT j3_ARMOUR i4 b5 b6 b7 b8 b9 c70 b1 b2 b3_MONTH
  h4 b6_TREE g7 b8 b9 c80 b1 b2 b3 b4 b5 b9 c90 b1_HELMET k220_FOOTSTOOL l5_BATHTUB k30_SPEAR
  h1_ARROW h2 b3_SWORD h4 b6 c40_WHEELED_CHARIOT r1_CHARIOT j2_CHARIOT_FRAME p3_WHEEL h5 b6 b8 b9
  c51 b2 b3 b4_DART g5 b6 b7 b8 b9 eVESSEL_B155 d200 b1 b2 b3 b4 b5 b6 b7 b8 b9 c10 b1 b2 b3 b4 b5
  b6 b7 b8 b9 c21 b2 b6 b7 b8 b9 c50 d305 uMONOGRAM_B127_KAPO g8_KANAKO j33_AREPA h5_MERI h56_TURO2
  j247_DIPTE tSYLLABLE_B001_DA e2_RO e3_PA e4_TE e5_TO e6_NA e7_DI e8_A d9_SE f10_U d1_PO e2_SO
  e3_ME e4_DO e5_MO e6_QA e7_ZA f20_ZO e1_QI e3_MU e4_NE e5_A2 e6_RU e7_RE e8_I d9_PU2 g30_NI e1_SA
  e2_QO e3_RA3 f6_JO e7_TI e8_E d9_PI f40_WI e1_SI e2_WO e3_A3 e4_KE e5_DE e6_JE e8_NWA g50_PU e1_DU
  e2_NO e3_RI e4_WA e5_NU e7_JA e8_SU e9_TA f60_RA e1_O d2_PTE f5_JU e6_TA2 f7_KI e8_RO2 f9_TU
  f70_KO e1_DWE f2_PE e3_MI e4_ZE e5_WE e6_RA2 f7_KA e8_QE f80_MA e1_KU e5_AU e7_TWE g90_DWO f1_TWO
  pMBOL_B018 b9 c22 c34 c47 b9 c56 c63 b4 c79 c82 b3 b6 b9 rK_SYMBOL hED_PAPERCLIPS pON_FACE hPS
  aTICK gRA_SIGN hSU_LETTER_A aE cBA cCA bHA dDA bZA dE aU cFA cGA bHA dHA bHA dI bJA cKA bHA dLA
  cMA cNA bGA dO aE cPA bHA dSA bHA dTA bHA cONE_MYA_BO cCYA dJEU dNA cTI gNA_PO jSA bHA eU aE bH
  cWA cXA cYA bHA dZA bHA kPUNCTUATION_COMMA fFULL_STOP yVRE_TOURNOIS_SIGN rZARD fLAMA eOBSTER fCK
  a_WITH_INK_PEN nING-SHIFT_ONE dZERO qGICAL_AND a_WITH_DOT_ABOVE hUBLE_OVERBAR hUNDERBAR
  pHORIZONTAL_DASH pMIDDLE_STEM lUNDERBAR rOR a_OVERLAPPING_LOGICAL_AND xWITH_DOT_ABOVE
  hUBLE_OVERBAR hUNDERBAR pHORIZONTAL_DASH pMIDDLE_STEM zLLIPOP
  gNG_DASH_FROM_LEFT_MEMBER_OF_DOUBLE_VERTICAL zoIVISION hRUM eLEFT_RIGHT_ARROW fDOUBLE_ARROW sTACK
  fWARDS_ARROW a_FROM_BAR oDOUBLE_ARROW a_FROM_BAR vSQUIGGLE_ARROW yRIGHT_TACK fWARDS_ARROW
  a_FROM_BAR oDOUBLE_ARROW a_FROM_BAR vSQUIGGLE_ARROW zdTION_BOTTLE kUS dUDLY_CRYING_FACE qVE_HOTEL
  fLETTER jW_ASTERISK iBATTERY gRIGHTNESS_SYMBOL rDOUBLE_PRIME_QUOTATION_MARK zcKAVYKA a_WITH_DOT
  pLINE fER_BLADE_SCISSORS oFIVE_EIGHTHS_BLOCK sHALF_BLOCK fCIRCLE gINVERSE_WHITE_CIRCLE
  uMEDIUM_SHADE rLEFT_BALLPOINT_PEN mLOCK_DIAGONAL_LOWER_MIDDLE_LEFT_TO_LOWER_CENTRE gRIGHT
  zhUPPER_CENTRE_TO_LOWER_MIDDLE_RIGHT mRIGHT lUPPER_MIDDLE_RIGHT zdLEFT_TO_LOWER_CENTRE
  gMIDDLE_RIGHT sUPPER_MIDDLE_RIGHT zbMIDDLE_LEFT_TO_LOWER_CENTRE gMIDDLE_RIGHT mRIGHT zwCRAYON
  gFOUNTAIN_PEN mPAINTBRUSH jENCIL gQUADRANT_CIRCULAR_ARC vSEMICIRCULAR_ANTICLOCKWISE_ARROW
  zhTRIANGLE cULAR_MEDIUM_SHADE zdONE_EIGHTH_BLOCK mQUARTER_BLOCK
  rRIGHT_BLOCK_DIAGONAL_LOWER_CENTRE_TO_LOWER_MIDDLE_RIGHT sUPPER_MIDDLE_RIGHT mRIGHT
  vLEFT_TO_LOWER_MIDDLE_RIGHT sUPPER_CENTRE gMIDDLE_RIGHT zbMIDDLE_LEFT_TO_UPPER_CENTRE
  gMIDDLE_RIGHT mRIGHT zhUPPER_MIDDLE_LEFT_TO_UPPER_CENTRE gRIGHT zwCORNER_WITH_DOT
  pDROP-SHADOWED_WHITE_SQUARE zbPENCIL gQUADRANT_CIRCULAR_ARC vSEMICIRCULAR_CLOCKWISE_ARROW
  zcHADOWED_WHITE_CIRCLE gSQUARE vTRIANGLE cULAR_MEDIUM_SHADE zeSEVEN_EIGHTHS_BLOCK
  tTHREE_EIGHTHS_BLOCK nQUARTERS_BLOCK tRIANGULAR_ONE_QUARTER_BLOCK zhZENGE
  a_DIVIDED_BY_HORIZONTAL_RULE ziRE bI bM bO cUGGAGE fNGS eYCIAN_LETTER_A aN cB aH cD bE aN cG bH bI
  bJ bK aK cL bM aM cN aN cP bQ bR bS bT aH bT cU bW bX bZ nDIAN_LETTER_A aN cB bC bD bE aN cF bG bI
  bK bL aY cM bN aN cO bQ bR bS aS cT aT cU bV bY iTRIANGULAR_MARK uING_FACE"⟩

end LineCalc.Text
