import LineCalc.Text.CharName.Basic

/-!
Names of characters from S to Z.
-/
namespace LineCalc.Text

def namesSToZ : NameTable := ⟨"
  aS_IN_TRIANGLE mAFETY_PIN dVEST jGITTARIUS jILBOAT gKE_BOTTLE_AND_CUP rLT_SHAKER hIRE eUTING_FACE
  lMARITAN_ABBREVIATION_MARK rLETTER_ALAF eBAA cIT dDALAT fFI cGAMAN fIN bT bY cKAAF eLABAT fMIM
  dNUN dQUF dRISH eSHAN dINGAAT hTAAF dIT cSAADIY hYUT dZEN kMARK_DAGESH gEPENTHETIC_YUT oIN a-ALAF
  hNEQUDAA hOCCLUSION nODIFIER_LETTER_EPENTHETIC_YUT oI bSHORT_A xPUNCTUATION_AFSAAQ fNGED dNAAU
  fRKAANU gTMAAU gBAU dMELODIC_QITSA nNEQUDAA hQITSA fSHIYYAALAA jOF_MASHFAAT mTURU eZAEF dIQAA
  rVOWEL_SIGN_A aA cE bI bLONG_A aA cE bI bU gO aVERLONG_A aA lSHORT_A gUKUN fU uNDWICH
  fS-SERIF_HEAVY_DOUBLE_COMMA_QUOTATION_MARK_ORNAMENT zeTURNED_COMMA_QUOTATION_MARK_ORNAMENT
  zsLOW_DOUBLE_COMMA_QUOTATION_MARK_ORNAMENT zvINTERROBANG_ORNAMENT zeRI cTELLITE a_ANTENNA oURN
  eURASHTRA_CONSONANT_SIGN_HAARU uDANDA eIGIT_EIGHT fFIVE dOUR eNINE eONE dSEVEN eIX dTHREE eWO
  dZERO jOUBLE_DANDA mLETTER_A aA bI bU cBA bHA dCA bHA dDA bDA bHA dHA dE aE cGA bHA dHA cI aI cJA
  bHA dKA bHA dLA bLA dMA cNA bGA cNA cYA dO aO cPA bHA dRA cSA bHA cSA dTA bHA cTA bHA eU aU cVA
  bOCALIC_L aL cR aR kYA jSIGN_ANUSVARA iCANDRABINDU lVIRAMA eSARGA mVOWEL_SIGN_AA bI bU cE aE cI aI
  cO aO cU aU cVOCALIC_L aL cR aR zdOPOD gXOPHONE iCALES dRF dHOOL a_SATCHEL mI bOOTER eRPION cUS
  gREEN cWDRIVER iIPT_CAPITAL_B bE bF bH bI bL bM bP bR jLIGATURE_ET_ORNAMENT uSMALL_E bG bL bO lOLL
  dUPLE gEAL bT cCOND_PLACE_MEDAL pTION_SIGN iOR eDNA dE-NO-EVIL_MONKEY pDLING gGMENT
  aED_DIGIT_EIGHT fFIVE dOUR eNINE eONE dSEVEN eIX dTHREE eWO dZERO sLFIE eMICOLON
  fDIRECT_PRODUCT_WITH_BOTTOM_CLOSED ziSEXTILE jPARATED_SYMBOL
  oRIOUS_FACE_WITH_SYMBOLS_COVERING_MOUTH zmVICE_MARK kSAME_DOT hQUIQUADRATE mT_MINUS
  fTRANSMIT_STATE qWING_NEEDLE lXTILE gGC cHADOWED_WHITE_CIRCLE gLATIN_CROSS lSTAR qLLOW_PAN_OF_FOOD
  qMROCK fRADA_ABBREVIATION_SIGN rCONTINUATION_SIGN rDANDA eIGIT_EIGHT fFIVE dOUR eNINE eONE dSEVEN
  eIX dTHREE eWO dZERO jOUBLE_DANDA mEKAM dXTRA_SHORT_VOWEL_MARK wHEADSTROKE kLETTER_A aA bI bU cBA
  bHA dCA bHA dDA bDA bHA dHA dE bGA bHA dHA cI aI cJA bHA dKA bHA dLA bLA dMA cNA bGA cNA cYA dO
  bPA bHA dRA cSA bHA cSA dTA bHA cTA bHA eU aU cVA bOCALIC_L aL cR aR kYA jOM cSANDHI_MARK
  kECTION_MARK-1 b2 mPARATOR iIGN_ANUSVARA hVAGRAHA iCANDRABINDU lINVERTED_CANDRABINDU uJIHVAMULIYA
  lNUKTA fSIDDHAM hUPADHMANIYA lVIRAMA eSARGA lUTRA_MARK kVOWEL_MODIFIER_MARK nSIGN_AA bI bU cE bI
  aI cO bPRISHTHAMATRA_E pU aU cVOCALIC_L aL cR aR zK cVED_ICE gIAN_LETTER_ADO cGE cH bIR cRE bRAY
  eSH cWE dBIB dCHURCH gDEAD eEAR bT cGG cRR dFEE dGAG dHA-HA eUNG eIAN cCE cF cJUDGE fKICK eLOLL
  eMEASURE gIME eNUN dOAK cIL cN bOZE dR bUT dPEEP eROAR eSO bURE eTHEY cIGH eOT dUP cVOW dWOE bOL
  eYEA bW dZOO qEEP dIELD dFT_IN cOUT gNTO_SHRINE kP cOCKED_FACE_WITH_EXPLODING_HEAD zeOTING_STAR
  kPPING_BAGS eTROLLEY nRT_BACKSLANTED_SOUTH_ARROW wENT_ARROW_POINTING_DOWNWARDS_THEN_NORTH_EAST
  zuDOWN_TACK a_WITH_OVERBAR wLEFT_TACK jRIGHTWARDS_ARROW_ABOVE_LEFTWARDS_ARROW
  znSLANTED_NORTH_ARROW tUP_TACK a_ABOVE_SHORT_DOWN_TACK vWITH_UNDERBAR wCAKE
  eHAND_FORMAT_CONTINUING_OVERLAP sDOWN_STEP jLETTER_OVERLAP oUP_STEP tS dULDERED_OPEN_BOX qWER
  eRIMP dUG dUFFLE_PRODUCT nY cI aDDHAM_DANDA eOUBLE_DANDA mEND_OF_TEXT_MARK qLETTER_A aA bI
  bLTERNATE_U kU cBA bHA dCA bHA dDA bDA bHA dHA dE bGA bHA dHA cI aI cJA bHA dKA bHA dLA cMA cNA
  bGA cNA cYA dO bPA bHA dRA cSA bHA cSA dTA bHA bREE-CIRCLE_ALTERNATE_I xTA bHA
  dWO-CIRCLE_ALTERNATE_I aI xU aU cVA bOCALIC_L aL cR aR kYA jREPETITION_MARK-1 b2 b3
  rSECTION_MARK_DOUBLE_RING a_WITH_RAYS vWITH_CIRCLES_AND_FOUR_ENCLOSURES pRAYS eTWO_ENCLOSURES
  zbDOUBLE_CRESCENTS qQUADRUPLE_CRESCENTS tRAYS_AND_DOTTED_CRESCENTS jDOUBLE_CRESCENTS
  qTRIPLE_CRESCENTS zhSEPTUPLE_CRESCENTS sTRIDENT_AND_DOTTED_CRESCENTS qU-SHAPED_ORNAMENTS
  zcPLE_CRESCENTS zhPARATOR_BAR dDOT mIGN_ANUSVARA iCANDRABINDU lNUKTA fSIDDHAM hVIRAMA eSARGA
  mVOWEL_SIGN_AA bI bLTERNATE_U aU lU cE bI aI cO bU aU cVOCALIC_R aR
  zbEWAYS_BLACK_DOWN_POINTING_INDEX tLEFT_POINTING_INDEX tRIGHT_POINTING_INDEX uUP_POINTING_INDEX
  xWHITE_DOWN_POINTING_INDEX tLEFT_POINTING_INDEX tRIGHT_POINTING_INDEX uUP_POINTING_INDEX
  zfGN_OF_THE_HORNS nWRITING_AIR_BLOW_SMALL_ROTATIONS qING_OUT lSUCK_SMALL_ROTATIONS qING_IN
  oBREATH_EXHALE gINHALE lUSH_BETWEEN hMULTIPLE iSINGLE mCHEEKS_NEUTRAL hPUFFED gSUCKED mOLON dMMA
  fDREAMY_EYEBROWS_DOWN_NEUTRAL mNEUTRAL_DOWN eUP kUP_NEUTRAL zYNAMIC_ARROWHEAD_LARGE fSMALL
  pEVERY_OTHER_TIME qFAST eGRADUAL hRELAXED hSIMULTANEOUS a_ALTERNATING xLOW eTENSE nEARS dXCITEMENT
  jYE_BLINK_MULTIPLE iSINGLE mWINK fBROWS_STRAIGHT_DOWN eNEUTRAL hUP rGAZE-FLOORPLANE_CURVED
  gSTRAIGHT a_ALTERNATING lDOUBLE zbWALLPLANE_CIRCLING hURVED gSTRAIGHT a_ALTERNATING lDOUBLE
  zfLASHES_DOWN eFLUTTERING kUP jS_CLOSED gHALF_CLOSED gOPEN jOPEN eSQUEEZED iWIDE_OPEN
  fNING_MOVEMENT wFACE_DIRECTION_POSITION_NOSE_FORWARD_TILTING pUP_OR_DOWN a_TILTING
  zvILL_MODIFIER-2 b3 b4 b5 b6 nNGER fLICK_LARGE_MULTIPLE iSINGLE mSEQUENTIAL jMALL_MULTIPLE iSINGLE
  qOORPLANE_SHOULDER_HIP_MOVE zcOREHEAD_CONTACT hNEUTRAL hWRINKLED qULL_STOP jGRASP_BETWEEN
  hMULTIPLE iSINGLE mHAIR cND-ANGLE a_INDEX a_MIDDLE_LITTLE gRING lRING_LITTLE a_OUT pTHUMB a_IN
  cOUT pLITTLE_INDEX a_THUMB_INDEX_THUMB a_OUT zcUP jMIDDLE_RING_LITTLE a_IN cOUT
  wRING_DOWN_MIDDLE_THUMB_INDEX_CROSS zeLITTLE rCIRCLE a_INDEX a_BENT eHINGE fMIDDLE a_CROSS_LITTLE
  hED hLITTLE gRING eTHUMB mRING_LITTLE rLITTLE_INDEX fUP jMIDDLE_RING_LITTLE a_BENT qUP
  jRING_LITTLE rLAW a_FOUR_FINGERS_CONJOINED wINDEX_THUMB_CURVE_THUMB_INSIDE
  zfMIDDLE_RING_LITTLE_CONJOINED a_SIDE ziNO_THUMB iTHUMB_FORWARD hSIDE oUP a_FIVE_FINGERS_SPREAD
  a_OPEN yINDEX a_RING_LITTLE lTHUMB a_OPEN qMIDDLE_RING_LITTLE sNO_THUMB iOPEN a_NO_THUMB
  iTHUMB_FORWARD hSIDE pTHUMB_FORWARD hSIDE mRLICUE a_INDEX_RING_LITTLE_ON uMIDDLE_RING_LITTLE_ON
  vOPEN nFIST a_FOUR_FINGERS_CONJOINED_BENT zcHEEL eINDEX a_BENT a_OVER_MIDDLE qCUPPED gHINGED a_LOW
  dMIDDLE_UP a_THUMB_SIDE zcMIDDLE a_BENT a_THUMB_STRAIGHT tCONJOINED a_CUPPED a_THUMB_FORWARD
  uHINGED a_THUMB_SIDE rINDEX_BENT kMIDDLE_BENT lTHUMB_FORWARD hSIDE a_BENT eCONJOINED zeROSS_LITTLE
  hED a_THUMB_SIDE sHINGED a_SPREAD_THUMB_SIDE yLITTLE gRAISED_KNUCKLES oING a_BENT eCONJOINED
  oSTRAIGHT_THUMB_BENT tTHUMB a_ANGLED a_OUT kBENT eCIRCLED gONJOINED_HINGED pUPPED gHINGED fOOKED
  mUP_SPREAD_THUMB_FORWARD zfRAISED_KNUCKLE nING_LITTLE lTHUMB_ANGLED_IN_MIDDLE_UP mOUT_MIDDLE_UP
  uCIRCLE aD_MIDDLE_UP qUPPED_MIDDLE_UP oRLICUE fVE_THUMB_INSIDE gUNDER rFORWARD_INDEX_BENT
  eSTRAIGHT wHOOK aED_MIDDLE_HINGED gUP qSIDE a_BOTH_BENT jINDEX_BENT eHINGE lTHUMB_BENT eCONJOINED
  jDIAGONAL zUP_MIDDLE_HINGED a_THUMB_CONJOINED jSIDE ziLITTLE_BENT eDOWN a_OTHERS_CIRCLED
  oRIPPLE_CURVED gSTRAIGHT uINDEX a_THUMB lRAISED_KNUCKLE oTHUMB eOUCHES_THUMB nUP
  jMIDDLE_BENT_OVER_INDEX pDOWN eLITTLE gRAISED_KNUCKLE nING_LITTLE lTHUMB_ANGLED_INDEX_UP
  iOUT_INDEX_CROSSED hUP tCIRCLED_INDEX_HINGED gUP pUPPED_INDEX_UP pHOOKED_INDEX_UP pLITTLE mUP
  a_THUMB_SIDE uRING_DOWN eINDEX fLITTLE gMIDDLE a_CONJOINED jRAISED_KNUCKLES wRAISED_KNUCKLE oTHUMB
  fUP hTHUMB a_BETWEEN_INDEX_MIDDLE a_STRAIGHT vMIDDLE_RING lRING_LITTLE tFORWARD hHEEL
  eOVER_FOUR_RAISED_KNUCKLES uTWO_FINGERS qSIDE_BENT eCONJOINED jDIAGONAL nUNDER_FOUR_FINGERS
  mINDEX_BENT kLITTLE_UP jTHREE_FINGERS mWO_FINGERS zcLAT a_BETWEEN_PALM_FACINGS
  uFIVE_FINGERS_SPREAD a_BENT eFOUR_BENT jHINGED a_NO_THUMB iTHUMB_SIDE rTHUMB_FORWARD zhOUR_FINGERS
  a_BENT eCONJOINED a_SPLIT pHINGED tHEEL a_FIVE_FINGERS_SPREAD a_BENT eFOUR_BENT zeTHUMB_SIDE
  pSPLIT_CENTRE a_THUMB_SIDE a_BENT wINDEX_THUMB_SIDE qLITTLE mTHUMB_BENT eFORWARD hSIDE pHINGE
  a_FIVE_FINGERS_SPREAD_OPEN xOUR_FINGERS_CONJOINED wINDEX a_HINGED gMIDDLE_LITTLE gRING a_CONJOINED
  vRING_LITTLE lTHUMB a_LARGE fOPEN eSIDE dMALL rLITTLE a_INDEX a_THUMB lTHUMB mMIDDLE a_RING_LITTLE
  sNO_THUMB iOPEN a_NO_THUMB iTHUMB_FORWARD hSIDE pRING a_DOWN_INDEX_THUMB_HOOK_MIDDLE ziSMALL
  fTHUMB_BETWEEN_MIDDLE_RING tSIDE a_TOUCHING_INDEX zfOOK a_CURLICUE iINDEX_RING_LITTLE_IN cOUT
  dUNDER xMIDDLE_RING_LITTLE_CONJOINED a_IN cOUT zTHUMB mRING_THUMB pOVAL a_FIVE_FINGERS_SPREAD
  tINDEX fLITTLE_UP jNO_THUMB iRING_LITTLE lTHUMB_FORWARD hSIDE tEAD a_MOVEMENT_CIRCLE
  h-FLOORPLANE_CURVE fSTRAIGHT tWALLPLANE_CURVE fSTRAIGHT iTILT xRIM iLIMB_COMBINATION lLENGTH-1 b2
  b3 b4 b5 b6 b7 lP_LOWER_OVER_UPPER qUPPER_OVER_LOWER rS_PRESSED_TOGETHER uOCATION_DEPTH fHEAD_NECK
  hIGHT gLIMBS_DIGITS mTORSO fWIDTH g-FLOORPLANE_SPACE qWALLPLANE_SPACE yMOUTH_CLOSED_CONTACT
  hFORWARD hNEUTRAL nORNERS hFROWN a_OPEN eWRINKLED oKISS a_FORWARD hWRINKLED nOPEN_CIRCLE gFORWARD
  hOVAL a_WRINKLED iYAWN jRECTANGLE a_WRINKLED iYAWN oWRINKLED nSMILE a_OPEN eWRINKLED oTENSE
  a_FORWARD hSUCKED mWRINKLES_DOUBLE gSINGLE tVEMENT-DIAGONAL_AWAY_LARGE aST hMEDIUM gSMALL
  kBETWEEN_AWAY_LARGE aST hMEDIUM gSMALL kTOWARDS_LARGE aST hMEDIUM gSMALL vTOWARDS_LARGE aST
  hMEDIUM gSMALL wFLOORPLANE_ARM_CIRCLE_HITTING_WALL_LARGE_DOUBLE gSINGLE mMEDIUM_DOUBLE gSINGLE
  nSMALL_DOUBLE gSINGLE zlBEND dOX_LARGE fMEDIUM gSMALL jCHECK eORNER_LARGE fMEDIUM gSMALL lROSS
  eURVE_COMBINED iHITTING_CEILING_LARGE fSMALL nFLOOR_LARGE fSMALL tLARGE aST hMEDIUM gSMALL
  lDOUBLE_ALTERNATING a_WRIST_FLEX wSTRAIGHT iWRIST_FLEX rFINGER_CIRCLES_HITTING_WALL_DOUBLE gSINGLE
  zbONTACT oHUMP_HITTING_CEILING_LARGE_DOUBLE gTRIPLE mSMALL_DOUBLE gTRIPLE uFLOOR_LARGE_DOUBLE
  mSMALL_DOUBLE mTRIPLE_LARGE_TRIPLE mSMALL_TRIPLE ziSMALL kJAW dLOOP_HITTING_CEILING_LARGE_DOUBLE
  gSINGLE mSMALL_DOUBLE gSINGLE uFLOOR_LARGE_DOUBLE gSINGLE mSMALL_DOUBLE gSINGLE zbSMALL
  kPEAKS_LARGE fMEDIUM gSMALL lSHAKING_PARALLEL pINGLE_STRAIGHT_LARGE aST hMEDIUM gSMALL oWRIST_FLEX
  rTRIPLE_ALTERNATING_MOVEMENT iWRIST_FLEX wSTRAIGHT_MOVEMENT rWRIST_FLEX
  rWAVE_HITTING_CEILING_LARGE fSMALL nFLOOR_LARGE fSMALL tLARGE fSMALL eNAKE
  jRIST_CIRCLE_HITTING_WALL_DOUBLE gSINGLE zhZIGZAG_LARGE fMEDIUM gSMALL xHINGE_DOWN_SEQUENTIAL
  pSIDE_TO_SIDE_SCISSORS vUP_DOWN_ALTERNATING_LARGE fSMALL rLARGE fSMALL kSEQUENTIAL
  tWALLPLANE_ARM_CIRCLE_MEDIUM_DOUBLE gSINGLE nSMALL_DOUBLE gSINGLE xBEND_LARGE fMEDIUM gSMALL
  jOX_LARGE fMEDIUM gSMALL jCHECK_LARGE fMEDIUM gSMALL kORNER_LARGE fMEDIUM gROTATION iSMALL lROSS
  eURVE_HALF-CIRCLE_LARGE aST hMEDIUM gSMALL qITTING_CHEST fFRONT_WALL sQUARTER_LARGE aST hMEDIUM
  gSMALL nTHEN_STRAIGHT lREE-QUARTER_CIRCLE_MEDIUM gSMALL zcD_CROSS_MEDIUM gSMALL
  sDOUBLE_ALTERNATING a_WRIST_FLEX wSTRAIGHT iWRIST_FLEX rFINGER_CIRCLES_DOUBLE gSINGLE nONTACT
  oHUMP_HITTING_CHEST fFRONT_WALL sLARGE fMEDIUM gSMALL kJAW dLOOP_HITTING_CHEST fFRONT_WALL sLARGE
  fMEDIUM gSMALL a_DOUBLE rPEAKS_LARGE fMEDIUM gSMALL lSHAKING gINGLE_STRAIGHT_LARGE aST hMEDIUM
  gSMALL oWRIST_FLEX rTRIPLE_ALTERNATING a_WRIST_FLEX wSTRAIGHT_MOVEMENT rWRIST_FLEX
  rWAVE_CURVE_DOUBLE_LARGE fMEDIUM gSMALL mTRIPLE_LARGE fMEDIUM gSMALL sDIAGONAL_PATH_LARGE fMEDIUM
  gSMALL tHITTING_CHEST fFRONT_WALL wRIST_CIRCLE_FRONT_DOUBLE gSINGLE zZIGZAG_LARGE fMEDIUM gSMALL
  zgNECK dOSE_CONTACT hNEUTRAL hWIGGLES gRINKLES nPARENTHESIS lROTATION_MODIFIER-10 b1 b2 b3 b4 b5
  b6 c2 b3 b4 b5 b6 b7 b8 b9 l-FLOORPLANE_ALTERNATING a_HITTING_CEILING hFLOOR zDOUBLE
  a_HITTING_CEILING hFLOOR uSINGLE a_HITTING_CEILING hFLOOR zgWALLPLANE_ALTERNATE bING_HITTING_CHEST
  fFRONT_WALL zfDOUBLE a_HITTING_CHEST fFRONT_WALL zSINGLE a_HITTING_CHEST fFRONT_WALL zsUB_BETWEEN
  hMULTIPLE iSINGLE kSEMICOLON iHOULDER_HIP_POSITIONS jSPINE jTILTING_FROM_WAIST
  zbQUEEZE_FLICK_ALTERNATING rLARGE_MULTIPLE iSINGLE mSEQUENTIAL jMALL_MULTIPLE iSINGLE
  tTRIKE_BETWEEN hMULTIPLE iSINGLE mURFACE_BETWEEN hSYMBOLS pTEETH a_BITE_LIPS jMOVEMENT iON_LIPS
  a_MOVEMENT nTONGUE a_MOVEMENT wNSE_CHEEKS_HIGH eLOW dMIDDLE sONGUE_CENTRE_INSIDE_MOUTH
  mSTICKING_OUT tINSIDE_MOUTH_RELAXED uLICKING_LIPS mMOVES_AGAINST_CHEEK tSTICKING_OUT_FAR
  qTIP_BETWEEN_LIPS mTOUCHING_INSIDE_MOUTH zfRSO-FLOORPLANE_TWISTING tWALLPLANE_CURVED_BEND
  lSTRAIGHT_STRETCH zfUCH_BETWEEN hMULTIPLE iSINGLE
  lRAVEL-FLOORPLANE_ROTATION-FLOORPLANE_ALTERNATING lDOUBLE gSINGLE rWALLPLANE_ALTERNATING lDOUBLE
  gSINGLE zSHAKING sWALLPLANE_ARM_SPIRAL_DOUBLE gSINGLE gTRIPLE rROTATION-FLOORPLANE_ALTERNATING
  lDOUBLE gSINGLE rWALLPLANE_ALTERNATING lDOUBLE gSINGLE zSHAKING
  yUPPER_BODY_TILTING_FROM_HIP_JOINTS zjWALLPLANE_SHOULDER_HIP_MOVE zmLHOUETTE_OF_JAPAN
  rMILAR_ABOVE_GREATER-THAN_ABOVE_EQUALS_SIGN zfLESS-THAN_ABOVE_EQUALS_SIGN ziMINUS_SIMILAR
  nOR_GREATER-THAN mLESS-THAN sNE_WAVE gGLE_CHARACTER_INTRODUCER uGRAPHIC_CHARACTER_INTRODUCER
  zdHIGH-REVERSED-9_QUOTATION_MARK zfLEFT-POINTING_ANGLE_QUOTATION_MARK ziOW-9_QUOTATION_MARK
  uRIGHT-POINTING_ANGLE_QUOTATION_MARK zkSHIFT_THREE eWO k-SHIFT-2 b3 lHALA_ARCHAIC_DIGIT_EIGHT
  fFIVE dOUR eNINE eONE dSEVEN eIX dTHREE eWO jNUMBER_EIGHTY gFIFTY eORTY fNINETY gONE_HUNDRED
  hTHOUSAND mSEVENTY gIXTY fTEN cHIRTY fWENTY vLETTER_AAYANNA gEEYANNA gYANNA gIYANNA
  gLPAPRAANA_BAYANNA hCAYANNA hDAYANNA gDAYANNA iGAYANNA hJAYANNA hKAYANNA hPAYANNA hTAYANNA
  gTAYANNA sMBA_BAYANNA lUYANNA gYANNA gDANTAJA_LAYANNA hNAYANNA hSAYANNA pEEYANNA gYANNA gFAYANNA
  hHAYANNA hIIYANNA gLUUYANNA gYANNA hRUUYANNA gYANNA hYANNA gKANTAJA_NAASIKYAYA
  sMAHAAPRAANA_BAYANNA hCAYANNA hDAYANNA gDAYANNA iGAYANNA hJAYANNA hKAYANNA hPAYANNA hTAYANNA
  gTAYANNA sYANNA gUURDHAJA_LAYANNA hNAYANNA hSAYANNA rOOYANNA gYANNA gRAYANNA hSANYAKA_DAYANNA
  gDAYANNA iGAYANNA hJAYANNA pTAALUJA_NAASIKYAYA kSANYOOGA_NAAKSIKYAYA sYANNA pUUYANNA gYANNA
  gVAYANNA hYAYANNA nITH_DIGIT_EIGHT fFIVE dOUR eNINE eONE dSEVEN eIX dTHREE eWO dZERO
  pPUNCTUATION_KUNDDALIYA wSIGN_AL-LAKUNA iNUSVARAYA kCANDRABINDU lVISARGAYA oVOWEL_SIGN_AELA-PILLA
  kDIGA_AEDA-PILLA kGAETTA-PILLA kYANUKITTA lIS-PILLA iKOMBUVA hPAA-PILLA oGAETTA-PILLA kYANUKITTA
  lKETTI_AEDA-PILLA kIS-PILLA iPAA-PILLA oOMBU_DEKA fVA a_HAA_AELA-PILLA kDIGA_AELA-PILLA
  pGAYANUKITTA zpX_PETALLED_BLACK_AND_WHITE_FLORETTE zhOINTED_BLACK_STAR kPINWHEEL_STAR
  nSTAR_WITH_MIDDLE_DOT ze-PER-EM_SPACE nTEEN_POINTED_ASTERISK xKATEBOARD iI_AND_SKI_BOOT nER dULL
  a_AND_CROSSBONES rNK eLANTED_EQUAL_TO_OR_GREATER-THAN a_WITH_DOT_INSIDE zdLESS-THAN
  a_WITH_DOT_INSIDE zmNORTH_ARROW_WITH_HOOKED_HEAD jRIZONTAL_TAIL zmVONIC_ASTERISK pED
  bEPING_ACCOMMODATION nFACE eSYMBOL kY_FACE iUTH_OR_SPY lICE_OF_PIZZA lGHTLY_FROWNING_FACE
  nSMILING_FACE tOPE bING_LARGE_AND dOR nT_MACHINE iH eMALL_AIRPLANE hMPERSAND iSTERISK
  iBLUE_DIAMOND mCOLON dMMA bERCIAL_AT lNTAINS_AS_MEMBER jWITH_OVERBAR
  hVERTICAL_BAR_AT_END_OF_HORIZONTAL_STROKE zzeDOLLAR_SIGN lELEMENT_OF a_WITH_OVERBAR
  hVERTICAL_BAR_AT_END_OF_HORIZONTAL_STROKE zzfM_DASH gQUALS_SIGN kXCLAMATION_MARK qFULL_STOP
  jGREATER-THAN_SIGN rHYPHEN-MINUS mIDEOGRAPHIC_COMMA rLEFT_CURLY_BRACKET nPARENTHESIS
  lTORTOISE_SHELL_BRACKET zSS-THAN_SIGN oNUMBER_SIGN lORANGE_DIAMOND oPERCENT_SIGN lLUS_SIGN
  jQUESTION_MARK nREVERSE_SOLIDUS oIGHT_CURLY_BRACKET nPARENTHESIS lTORTOISE_SHELL_BRACKET
  zcOMAN_NUMERAL_EIGHT eLEVEN gFIFTY dVE a_HUNDRED lOUR eNINE eONE a_HUNDRED hTHOUSAND mSEVEN eIX
  dTEN cHREE eWELVE eO rSEMICOLON jTILDE eWO_DOTS_OVER_ONE_DOT_PUNCTUATION ziVEE_WITH_UNDERBAR
  sER_THAN a_OR_EQUAL_TO vSH_PRODUCT lILE bING_CAT_FACE_WITH_HEART-SHAPED_EYES rOPEN_MOUTH
  yFACE_WITH_HALO dEART-SHAPED_EYES qORNS fOPEN_MOUTH a_AND_COLD_SWEAT kSMILING_EYES
  mTIGHTLY-CLOSED_EYES zjSMILING_EYES a_AND_HAND_COVERING_MOUTH tTHREE_HEARTS zdUNGLASSES kTEAR
  tRKING_FACE lOKING_SYMBOL nNAIL cKE dEEZING_FACE lOW_CAPPED_MOUNTAIN qBOARDER hFLAKE fMAN
  a_WITHOUT_SNOW tO aCCER_BALL iKS dFT_HYPHEN gICE_CREAM jSHELL_FLOPPY_DISK sBALL
  eWARE-FUNCTION_SYMBOL wGDIAN_COMBINING_CURVE_ABOVE fBELOW lDOT_ABOVE fBELOW jHOOK_ABOVE fBELOW
  kLONG_HOOK_BELOW pRESH_BELOW kSTROKE_BELOW mTWO_DOTS_ABOVE fBELOW yINDEPENDENT_SHIN qLETTER_ALEPH
  eYIN eBETH eFETH eGIMEL fHE aTH eKAPH eLAMEDH fESH eMEM dNUN dPE cRESH-AYIN jSADHE dMEKH fHIN eTAW
  dWAW dYODH eZAYIN mNUMBER_ONE a_HUNDRED lTEN cWENTY nPUNCTUATION_CIRCLE_WITH_DOT
  pHALF_CIRCLE_WITH_DOT uTWO_CIRCLES_WITH_DOTS rVERTICAL_BARS a_WITH_DOTS zuH
  bLID_QUILT_SQUARE_ORNAMENT a_IN_BLACK_SQUARE znUS a_WITH_OVERBAR sM_SIGN
  gON_WITH_RIGHTWARDS_ARROW_ABOVE zfRA_SOMPENG_DIGIT_EIGHT fFIVE dOUR eNINE eONE dSEVEN eIX dTHREE
  eWO dZERO kLETTER_AH cBAH dCAH dDAH dEEH cH cGAH dHAH dIH cJAH dKAH dLAH dMAE bH dNAH cGAH dYAH
  eOH cPAH dRAH dSAH dTAH dUH cVAH dYAH vS bUND_RECORDING_COPYRIGHT wTH_EAST_ARROW
  a_AND_SOUTH_WEST_ARROW uCROSSING_NORTH_EAST_ARROW zTO_CORNER jWITH_HOOK pBLACK_ARROW lDOUBLE_ARROW
  mPOINTING_BUD dLEAF eVINE_LEAF sSANS-SERIF_ARROW qTRIANGLE-HEADED_ARROW a_TO_BAR zdWHITE_ARROW
  qWEST_ARROW a_AND_NORTH_WEST_ARROW uWITH_HOOK pBLACK_ARROW lDOUBLE_ARROW mPOINTING_BUD dLEAF
  eVINE_LEAF sSANS-SERIF_ARROW qTRIANGLE-HEADED_ARROW a_TO_BAR zdWHITE_ARROW
  uYOMBO_CLUSTER-INITIAL_LETTER_LA cRA cSA bHA zbFINAL_CONSONANT_SIGN_-A cB bD bG bK bL bM bN aG cR
  bS aH xGEMINATION_MARK pHEAD_MARK_WITH_MOON_AND_SUN a_AND_FLAME fTRIPLE_FLAME ztLETTER_-A cA bBA
  bHA dCA bHA dDA bDA bHA dHA cZA dGA bHA dHA cJA bHA dKA bHA cSSA eLA cMA cNA bGA cNA cYA dPA bHA
  dRA cSA bHA cSA dTA bHA cSA bHA dTA bHA eVA cYA cZA bHA kMARK_DOUBLE_SHAD lPLUTA fSHAD eTSHEG
  kSIGN_ANUSVARA iJIHVAMULIYA lUPADHMANIYA lVISARGA lUBJOINER jTERMINAL_MARK-1 b2 pVOWEL_LENGTH_MARK
  lSIGN_AI bU cE bI bO aE cU aE cVOCALIC_L bR zcP aA aCE cGHETTI gRKLE aS cING_HEART
  nEAK-NO-EVIL_MONKEY pER a_WITH_CANCELLATION_STROKE tONE_SOUND_WAVE oTHREE_SOUND_WAVES
  zING_HEAD_IN_SILHOUETTE yECH_BALLOON kDBOAT gSMILO_SIGN lHERICAL_ANGLE a_OPENING_LEFT eUP yIDER
  a_WEB hRAL_CALENDAR_PAD mNOTE_PAD iSHELL kLASHING_SWEAT_SYMBOL uONGE dOL_OF_THREAD lN cRTS_MEDAL
  jUTING_WHALE nQUARE_A_OVER_M hARU dM bNPEA ePAATO fRUHUA fU cBAARERU fR cEETA eIRU dORUTO fQ
  bUSSYERU iC_OVER_KG iAL bP cC bD bM a_CUBED fSQUARED jO aRPORATION kUP dDA aASU eB bESI dJ bL bM
  a_CUBED fSQUARED jORU eEEKAA eRA_NAME_HEISEI gMEIZI fREIWA fSYOUWA gTAISYOU oG cSUKUUDO hV cFM
  bOOT cUR_CORNERS mGAL bNMA dRON eB bHZ cIGA cNII dRUDAA gPA cURAMU aTON iY cHA aITU eEKUTAARU
  hRUTU fG bIRAGANA_HOKA mON bON bRU eP aA cUARADDO gIITO eRAN eZ cIMAGE_OF a_OR_EQUAL_TO
  iNOT_EQUAL_TO xN aINGU eTI dU cK_OHM eA aIRI dRATTO eORII gB bCAL dEESU eG bHZ cIRO aGURAMU
  gMEETORU hWATTO iK bL bM a_CAPITAL gUBED fSQUARED jOOPO dRUNA fPA cT bUROONE eUZEIRO iV bW bYURII
  gLEFT_OPEN_BOX_OPERATOR vM bN bOG bZENGE gX cM_CUBED fOHM cVER_S a_SQUARED oSQUARED iA aHHA dIKURO
  eRU dNSYON fRUKU fB a_SMALL hEETORU fGA aTON gG bHZ cIKURON fL bRI aBAARU iL bM a_CUBED fSQUARED
  jOL cPA cS bU_A bF bG bL bM bS bV bW dV a_MEGA gW a_MEGA hNA aNO dF bM bOTTO eS bV bW cONSU dOMU
  dRIGINAL_OF a_OR_EQUAL_TO iNOT_EQUAL_TO zbV cPA a_AMPS fASENTO fTU eC bEEZI dNIHI dSU dSO dF bH
  bIASUTORU hKO bURU fM bOINTO eNDO dSITION_INDICATOR rPM cR bS bV bW cRAD a_OVER_S a_SQUARED rEMU
  cNTOGEN hIGHT_OPEN_BOX_OPERATOR vRA cTTORU gOOT dUPII dUBURU hSAIKURU fNTIIMU hENTI bO eIRINGU gR
  bV cTARGET fHZ cON dUON dV_OVER_M iWATTO eB bITH_BOTTOM_HALF_BLACK rCONTOURED_OUTLINE
  rDIAGONAL_CROSSHATCH_FILL yHORIZONTAL_FILL pLEFT_HALF_BLACK oOWER_LEFT_DIAGONAL_HALF_BLACK
  yRIGHT_DIAGONAL_HALF_BLACK zgORTHOGONAL_CROSSHATCH_FILL zbRIGHT_HALF_BLACK qTOP_HALF_BLACK
  oUPPER_LEFT_DIAGONAL_HALF_BLACK tTO_LOWER_RIGHT_FILL yRIGHT_DIAGONAL_HALF_BLACK
  tTO_LOWER_LEFT_FILL zfVERTICAL_FILL sYAADO cRU eUAN fD_ASTERISK iCJK_UNIFIED_IDEOGRAPH-4E00 b9 c2D
  c8C cA4 e518D d21D c4D c72 d3CC cF3 d408 c39 d5B6 d8F0 d91A c29 dB57 dDE6 dF8C e624B c53 c95 d307
  c55 d599 cB0 d620 d708 b9 dE80 dF14 e7121 d51F c33 d981 dA7A dD42 e89E3 dCA9 dD70 e904A d14D zL
  bOOL eDOT_OPERATOR mEIGHT_K hFALLING_DIAGONAL_SLASH vIVE_POINT_ONE nOUR_DOT_PUNCTUATION pK fREE
  eHC bDR cI-RES fV cID cKATAKANA_DE cKOKO eSA kEY dLATIN_CAPITAL_LETTER_A bB bC bD bE bF bG bH bI
  bJ bK bL bM bN bO bP bQ bR bS bT bU bV bW bX bY bZ qSMALL_LETTER_D tOGICAL_AND dOR iSSLESS iMINUS
  eV cNEW cG cOK bNE_HUNDRED_TWENTY_P uPLUS dPV dRISING_DIAGONAL_SLASH vSALTIRE gD bECOND_SCREEN
  lVEN_POINT_ONE oHV cIXTY_P gMALL_CIRCLE lOS cQUARE fS cTHREE_D gIMES eWENTY-TWO_POINT_TWO sO_K
  fUHD cP_WITH_EXCLAMATION_MARK yVOD cS cWC gT_BLACK_RIGHTWARDS_ARROW zID eS2 b3 bA cT aADIUM
  eFF_OF_AESCULAPIUS lHERMES mMPED_ENVELOPE nNDING_PERSON mR_AND_CRESCENT mEQUALS gOF_DAVID hPERATOR
  iWITH_LEFT_HALF_BLACK pRIGHT_HALF_BLACK wT_OF_GUARDED_AREA mHEADING hPROTECTED_AREA oSELECTED_AREA
  mTRING gTEXT kTION dUE_OF_LIBERTY pEAM_LOCOMOTIVE lING_BOWL kNOGRAPHIC_FULL_STOP tTHOSCOPE
  jICK_FIGURE a_LEANING_LEFT eRIGHT nWITH_ARMS_RAISED lDRESS vOCK_CHART iPWATCH hRAIGHT_RULER gNESS
  iWBERRY hESS_OUTLINED_WHITE_STAR xICTLY_EQUIVALENT_TO sNG_TERMINATOR pS bUDIO_MICROPHONE
  oFFED_FLATBREAD oPA dX cUB aSCRIPT_EIGHT eQUALS_SIGN lFIVE dOUR eLEFT_PARENTHESIS qMINUS fNINE
  eONE dPLUS_SIGN jRIGHT_PARENTHESIS rSEVEN eIX dTHREE eWO dZERO kET_ABOVE_RIGHTWARDS_ARROW qSUBSET
  ePERSET oOF a_ABOVE_ALMOST_EQUAL_TO pEQUALS_SIGN lNOT_EQUAL_TO mTILDE_OPERATOR uOR_EQUAL_TO
  a_WITH_DOT_ABOVE zbWITH_NOT_EQUAL_TO uWITH_DOT dMULTIPLICATION_SIGN_BELOW zPLUS_SIGN_BELOW xTITUTE
  iCCEEDS a_ABOVE_ALMOST_EQUAL_TO pEQUALS_SIGN lNOT_ALMOST_EQUAL_TO pEQUAL_TO
  mSINGLE-LINE_EQUALS_SIGN lNOT_EQUAL_TO zfBUT_NOT_EQUIVALENT_TO vOR_EQUAL_TO fIVALENT_TO
  qUNDER_RELATION vMMATION_BOTTOM gTOP dWITH_INTEGRAL vN a_BEHIND_CLOUD mWITH_FACE kDANESE_AVAGRAHA
  iCONSONANT_SIGN_PAMINGKAL hNYAKRA eIKU fSANGAN_MA cWA zbDIGIT_EIGHT fFIVE dOUR eNINE eONE dSEVEN
  eIX dTHREE eWO dZERO kLETTER_A aE cBA bHA dCA cDA cE aU cFA bINAL_K bM hGA cHA cI bJA cKA bHA dLA
  bEU dMA cNA bGA cYA dO bPA cQA cRA bEU dSA bYA dTA cU bVA cWA cXA cYA cZA
  jPUNCTUATION_BINDU_BA_SATANGA kCAKRA fDA_SATANGA kKA_SATANGA kLEU_SATANGA lPANGLONG hURNAMA hSURYA
  xSIGN_PAMAAEH fNGLAYAR fWISAD gYECEK iVIRAMA lVOWEL_SIGN_PAMEPET fNAELAENG hEULEUNG hGHULU fOLONG
  fYUKU zFLOWER gRISE a_OVER_MOUNTAINS tSET_OVER_BUILDINGS tPERHERO eSCRIPT_EIGHT eQUALS_SIGN lFIVE
  dOUR eLATIN_SMALL_LETTER_I bN tEFT_PARENTHESIS qMINUS fNINE eONE dPLUS_SIGN jRIGHT_PARENTHESIS
  rSEVEN eIX dTHREE eWO dZERO kET_ABOVE_LEFTWARDS_ARROW pSUBSET ePERSET
  oBESIDE_AND_JOINED_BY_DASH_WITH_SUBSET zfSUBSET nOF a_ABOVE_ALMOST_EQUAL_TO pEQUALS_SIGN
  lNOT_EQUAL_TO mTILDE_OPERATOR uOR_EQUAL_TO a_WITH_DOT_ABOVE zbWITH_NOT_EQUAL_TO uPRECEDING_SOLIDUS
  rWITH_DOT dMULTIPLICATION_SIGN_BELOW zPLUS_SIGN_BELOW yVILLAIN kRFACE_INTEGRAL mER eSHI
  cPENSION_RAILWAY rWAN bSH_AMPERSAND_ORNAMENT wIMMER fUNG_DASH jYLOTI_NAGRI_LETTER_A bBHO cO cCHO
  cO cDDHO cO cHO cO cE bGHO cO cHO cI bJHO cO cKHO cO cLO cMO cNO cO bPHO cO cRO bRO dSO cTHO cO
  bTHO cO dU iPOETRY_MARK-1 b2 b3 b4 nSIGN_ALTERNATE_HASANTA qNUSVARA iDVISVARA iHASANTA
  mVOWEL_SIGN_A bE bI bOO cU xMBOL_FOR_ACKNOWLEDGE lBACKSPACE iELL eCANCEL eRRIAGE_RETURN
  pDATA_LINK_ESCAPE pELETE a_FORM_TWO nVICE_CONTROL_FOUR eONE dTHREE eWO sEND_OF_MEDIUM gTEXT
  dRANSMISSION a_BLOCK xQUIRY gSCAPE gFILE_SEPARATOR nORM_FEED jGROUP_SEPARATOR
  pHORIZONTAL_TABULATION vLINE_FEED jMARKS_CHAPTER nNEGATIVE_ACKNOWLEDGE sWLINE gULL
  eRECORD_SEPARATOR qSAMARITAN_SOURCE pHIFT_IN cOUT iPACE eTART_OF_HEADING hTEXT mUBSTITUTE
  a_FORM_TWO sYNCHRONOUS_IDLE qTYPE_A_ELECTRONICS sUNIT_SEPARATOR oVERTICAL_TABULATION zcMETRY gN
  aAGOGUE gCHRONOUS_IDLE oRIAC_ABBREVIATION_MARK rBARREKH hCOLON_SKEWED_LEFT eRIGHT qNTRACTION
  lDOTTED_ZLAMA_ANGULAR hHORIZONTAL xEND_OF_PARAGRAPH pSASA_ABOVE fBELOW lFEMININE_DOT
  mHARKLEAN_ASTERISCUS kMETOBELUS jOBELUS oBASA_ABOVE fBELOW g-ESASA_DOTTED rORIZONTAL_COLON
  qLETTER_ALAPH fBETH eDALATH fOTLESS_DALATH_RISH tE bFINAL_SEMKATH nGAMAL a_GARSHUNI oHE aTH eKAPH
  eLAMADH gMALAYALAM_BHA dJA cLLA bLA eNGA cNA bNA dYA dRA cSSA dTTA mIM dNUN dPE aRSIAN_BHETH
  fDHALATH hGHAMAL oQAPH eREVERSED_PE kISH eSADHE eEMKATH gHIN dOGDIAN_FE cKHAPH fZHAIN
  mUPERSCRIPT_ALAPH rTAW cETH a_GARSHUNI nWAW dYUDH a_HE hZAIN lMUSIC fOBLIQUE_LINE_ABOVE fBELOW
  sPTHAHA_ABOVE fBELOW fDOTTED nQUSHSHAYA jRBASA_ABOVE fBELOW kUKKAKHA hWAHA fSUBLINEAR_COLON
  a_SKEWED_LEFT eRIGHT sFULL_STOP rPRALINEAR_COLON a_SKEWED_LEFT rFULL_STOP vTHREE_DOTS_ABOVE fBELOW
  pWO_VERTICAL_DOTS_ABOVE fBELOW xZQAPHA_ABOVE fBELOW fDOTTED qNGE hT-REX dSHIRT gAB
  aLE_TENNIS_PADDLE_AND_BALL zbCO cG_AMPERSAND iPOSTROPHE jSTERISK iCIRCUMFLEX_ACCENT qOLON dMMA
  bERCIAL_AT nDIGIT_EIGHT fFIVE dOUR eNINE eONE dSEVEN eIX dTHREE eWO dZERO jOLLAR_SIGN lEQUALS_SIGN
  kXCLAMATION_MARK qFULL_STOP jGRAVE_ACCENT kEATER-THAN_SIGN rHYPHEN-MINUS mLATIN_CAPITAL_LETTER_A
  bB bC bD bE bF bG bH bI bJ bK bL bM bN bO bP bQ bR bS bT bU bV bW bX bY bZ qSMALL_LETTER_A bB bC
  bD bE bF bG bH bI bJ bK bL bM bN bO bP bQ bR bS bT bU bV bW bX bY bZ tEFT_CURLY_BRACKET
  nPARENTHESIS lSQUARE_BRACKET rSS-THAN_SIGN nOW_LINE iNUMBER_SIGN lPERCENT_SIGN lLUS_SIGN
  jQUESTION_MARK lOTATION_MARK oREVERSE_SOLIDUS oIGHT_CURLY_BRACKET nPARENTHESIS lSQUARE_BRACKET
  uSEMICOLON iOLIDUS gPACE fTILDE fVERTICAL_LINE oALOG_LETTER_A aRCHAIC_RA kBA cDA cGA cHA cI bKA
  cLA cMA cNA bGA dPA cRA cSA cTA cU bWA cYA jSIGN_PAMUDPOD iVIRAMA lVOWEL_SIGN_I bU rBANWA_LETTER_A
  bBA cDA cGA cI bKA cLA cMA cNA bGA dPA cSA cTA cU bWA cYA jVOWEL_SIGN_I bU tI_LE_LETTER_A aI bUE
  dE aE bH cFA cHA cI bKA bHA dLA cMA cNA bGA dO aO cPA bHA dQA cSA cTA bHA cONE-2 b3 b4 b5 b6 fSA
  bHA eU aE cVA cXA cYA mTHAM_COMBINING_CRYPTOGRAMMIC_DOT zNSONANT_SIGN_BA cFINAL_NGA
  jHIGH_RATHA_OR_LOW_PA uLA_TANG_LAI kOW_PA gMA bEDIAL_LA cRA jSA rHORA_DIGIT_EIGHT fFIVE dOUR eNINE
  eONE dSEVEN eIX dTHREE eWO dZERO pLETTER_A bBA cDA cEE cGREAT_SA iHIGH_CA bHA dFA cHA cKA bHA cXA
  dPA bHA dRATHA fSA bHA cSA dTA bHA dYA hI aI cLA aE cLA cOW_CA bHA dFA cHA cKA bHA cXA dPA bHA
  dRATHA fSA cTA bHA dYA fUE dMA cNA bGA cYA dOO cRA aNA cTA dUE dU aU cWA jSIGN_CAANG fDOKMAI gHANG
  dOY dKAAN aKUU gEOW dHUEN_TONE-3 b4 b5 h-LUE_KARAN pMAI_KANG a_LAI iSAM dYAMOK jRA_HAAM
  gEVERSED_ROTATED_RANA vSAKOT dTKAAN aKUU iWAN fTONE-1 b2 gWIANG aWAAK oTHAM_DIGIT_EIGHT fFIVE dOUR
  eNINE eONE dSEVEN eIX dTHREE eWO dZERO pVOWEL_SIGN_A aA bE bI cE bI aI cMAI_SAT hO aA_ABOVE fBELOW
  hO bY cTALL_AA gHAM_AI hU aE bU aE tVIET_LETTER_HIGH_BO cCHO cO cDO cFO cGO cHO cKHHO cO cO cLO
  cMO cNGO cO bYO dO bPHO cO cRO cSO cTHO cO cVO cYO hLOW_BO cCHO cO cDO cFO cGO cHO cKHHO cO cO cLO
  cMO cNGO cO bYO dO bPHO cO cRO cSO cTHO cO cVO cYO nMAI_KANG dHIT iSYMBOL_HO_HOI gKOI_KOI fN
  dNUENG fSAM kTONE_MAI_EK cNUENG fSONG eTHO mVOWEL_AA bM bN bUE cY cE bI aA cO bU aA bE aA
  qKEOUT_BOX iRI_ABBREVIATION_SIGN rDIGIT_EIGHT fFIVE dOUR eNINE eONE dSEVEN eIX dTHREE eWO dZERO
  kLETTER_A aA bI bRCHAIC_KHA kU cBA bHA dCA bHA dDA bDA bHA dHA dE bGA bHA dHA cI aI cJA bHA dKA
  bHA dLA cMA cNA bGA cNA cYA dO bPA bHA dRA bRA dSA bHA dTA bHA cTA bHA eU aU cVA cYA
  jSIGN_ANUSVARA iNUKTA fVIRAMA eSARGA mVOWEL_SIGN_AA bI bU cE bI aI cO bU aU rLLY_MARK_FIVE eONE
  mMALE dIL_AND_ODD_SIGN lS_ABOVE_SIGN mU_LENGTH_MARK oCREDIT_SIGN kURRENT_SIGN mDAY_SIGN hEBIT_SIGN
  jIGIT_EIGHT fFIVE dOUR eNINE eONE dSEVEN eIX dTHREE eWO dZERO jRY_CULTIVATION_SIGN
  uFRACTION_DOWNSCALING_FACTOR_KIIZH yONE_EIGHTH bIETH jFIFTH eORTIETH iHALF-1 b2
  gONE-HUNDRED-AND-SIXTIETH yQUARTER hSIXTEENTH-1 b2 hY-FOURTH mTENTH eHIRTY-SECOND
  lREE-HUNDRED-AND-TWENTIETH zbWENTIETH nTHREE_EIGHTIETHS kQUARTERS iSIXTEENTHS gY-FOURTHS
  nTWENTIETHS zIN_POSSESSION_SIGN sLAND_SIGN iETTER_A aA bI bU cCA cE aE cHA cI aI cJA cKA cLA bLA
  bLA eMA cNA bGA cNA bNA dYA dO aO cPA cRA bRA dSA bHA cSA dTA bTA dU aU cVA cYA jMONTH_SIGN
  kNUMBER_ONE_HUNDRED hTHOUSAND mSIGN eTEN kOM cPUNCTUATION_END_OF_TEXT xRUPEE_SIGN kSALT_PAN_SIGN
  mIGN_AAZHAAKKU iNUSVARA iCEVITU gKAACU eURUNI eZHI fMUKKURUNI hTHALIYA hUVUZHAKKU lNEL dPAARAM
  eNAM dTHAKKU hON dUZHAKKU hVAKAIYARAA iRAAKAN hELI dIRAMA eSARGA lPENT_SIGN jTARTING_FROM_SIGN
  sTOTAL_SIGN jRADITIONAL_CREDIT_SIGN lNUMBER_SIGN xVOWEL_SIGN_AA bI bU cE aE cI aI cO aO cU aU
  nWET_CULTIVATION_SIGN uYEAR_SIGN nNABATA_TREE kGERINE fSA_DIGIT_EIGHT fFIVE dOUR eNINE eONE dSEVEN
  eIX dTHREE eWO dZERO kLETTER_AC bQ bWC bQ bX bZ cX bZ cBA cCA bHA dDA bHA dEC bQ bX bZ cFA
  bINAL_NG iGA bHA dHA bTA bTA eIC bQ bX bZ cKA bHA dLA bONG_UEX iMA bC bQ bX bZ cNA bGA cHA cYA dOC
  bQ bX bZ cPA bHA dRA cSA bHA bORT_AWX dUEZ jTA bHA cSA dUC bEC bQ bX bZ cIC bQ bUC bQ bX bZ cX bZ
  cQ bX bZ cVC bQ bX bZ cWA cXA cYA cZA mUT_COMPONENT-001 b2 b3 b4 b5 b6 b7 b8 b9 c10 b1 b2 b3 b4 b5
  b6 b7 b8 b9 c20 b1 b2 b3 b4 b5 b6 b7 b8 b9 c30 b1 b2 b3 b4 b5 b6 b7 b8 b9 c40 b1 b2 b3 b4 b5 b6 b7
  b8 b9 c50 b1 b2 b3 b4 b5 b6 b7 b8 b9 c60 b1 b2 b3 b4 b5 b6 b7 b8 b9 c70 b1 b2 b3 b4 b5 b6 b7 b8 b9
  c80 b1 b2 b3 b4 b5 b6 b7 b8 b9 c90 b1 b2 b3 b4 b5 b6 b7 b8 b9 d100 b1 b2 b3 b4 b5 b6 b7 b8 b9 c10
  b1 b2 b3 b4 b5 b6 b7 b8 b9 c20 b1 b2 b3 b4 b5 b6 b7 b8 b9 c30 b1 b2 b3 b4 b5 b6 b7 b8 b9 c40 b1 b2
  b3 b4 b5 b6 b7 b8 b9 c50 b1 b2 b3 b4 b5 b6 b7 b8 b9 c60 b1 b2 b3 b4 b5 b6 b7 b8 b9 c70 b1 b2 b3 b4
  b5 b6 b7 b8 b9 c80 b1 b2 b3 b4 b5 b6 b7 b8 b9 c90 b1 b2 b3 b4 b5 b6 b7 b8 b9 d200 b1 b2 b3 b4 b5
  b6 b7 b8 b9 c10 b1 b2 b3 b4 b5 b6 b7 b8 b9 c20 b1 b2 b3 b4 b5 b6 b7 b8 b9 c30 b1 b2 b3 b4 b5 b6 b7
  b8 b9 c40 b1 b2 b3 b4 b5 b6 b7 b8 b9 c50 b1 b2 b3 b4 b5 b6 b7 b8 b9 c60 b1 b2 b3 b4 b5 b6 b7 b8 b9
  c70 b1 b2 b3 b4 b5 b6 b7 b8 b9 c80 b1 b2 b3 b4 b5 b6 b7 b8 b9 c90 b1 b2 b3 b4 b5 b6 b7 b8 b9 d300
  b1 b2 b3 b4 b5 b6 b7 b8 b9 c10 b1 b2 b3 b4 b5 b6 b7 b8 b9 c20 b1 b2 b3 b4 b5 b6 b7 b8 b9 c30 b1 b2
  b3 b4 b5 b6 b7 b8 b9 c40 b1 b2 b3 b4 b5 b6 b7 b8 b9 c50 b1 b2 b3 b4 b5 b6 b7 b8 b9 c60 b1 b2 b3 b4
  b5 b6 b7 b8 b9 c70 b1 b2 b3 b4 b5 b6 b7 b8 b9 c80 b1 b2 b3 b4 b5 b6 b7 b8 b9 c90 b1 b2 b3 b4 b5 b6
  b7 b8 b9 d400 b1 b2 b3 b4 b5 b6 b7 b8 b9 c10 b1 b2 b3 b4 b5 b6 b7 b8 b9 c20 b1 b2 b3 b4 b5 b6 b7
  b8 b9 c30 b1 b2 b3 b4 b5 b6 b7 b8 b9 c40 b1 b2 b3 b4 b5 b6 b7 b8 b9 c50 b1 b2 b3 b4 b5 b6 b7 b8 b9
  c60 b1 b2 b3 b4 b5 b6 b7 b8 b9 c70 b1 b2 b3 b4 b5 b6 b7 b8 b9 c80 b1 b2 b3 b4 b5 b6 b7 b8 b9 c90
  b1 b2 b3 b4 b5 b6 b7 b8 b9 d500 b1 b2 b3 b4 b5 b6 b7 b8 b9 c10 b1 b2 b3 b4 b5 b6 b7 b8 b9 c20 b1
  b2 b3 b4 b5 b6 b7 b8 b9 c30 b1 b2 b3 b4 b5 b6 b7 b8 b9 c40 b1 b2 b3 b4 b5 b6 b7 b8 b9 c50 b1 b2 b3
  b4 b5 b6 b7 b8 b9 c60 b1 b2 b3 b4 b5 b6 b7 b8 b9 c70 b1 b2 b3 b4 b5 b6 b7 b8 b9 c80 b1 b2 b3 b4 b5
  b6 b7 b8 b9 c90 b1 b2 b3 b4 b5 b6 b7 b8 b9 d600 b1 b2 b3 b4 b5 b6 b7 b8 b9 c10 b1 b2 b3 b4 b5 b6
  b7 b8 b9 c20 b1 b2 b3 b4 b5 b6 b7 b8 b9 c30 b1 b2 b3 b4 b5 b6 b7 b8 b9 c40 b1 b2 b3 b4 b5 b6 b7 b8
  b9 c50 b1 b2 b3 b4 b5 b6 b7 b8 b9 c60 b1 b2 b3 b4 b5 b6 b7 b8 b9 c70 b1 b2 b3 b4 b5 b6 b7 b8 b9
  c80 b1 b2 b3 b4 b5 b6 b7 b8 b9 c90 b1 b2 b3 b4 b5 b6 b7 b8 b9 d700 b1 b2 b3 b4 b5 b6 b7 b8 b9 c10
  b1 b2 b3 b4 b5 b6 b7 b8 b9 c20 b1 b2 b3 b4 b5 b6 b7 b8 b9 c30 b1 b2 b3 b4 b5 b6 b7 b8 b9 c40 b1 b2
  b3 b4 b5 b6 b7 b8 b9 c50 b1 b2 b3 b4 b5 b6 b7 b8 b9 c60 b1 b2 b3 b4 b5 b6 b7 b8 nITERATION_MARK
  tPE_CARTRIDGE jDRIVE iURUS eXI dEACUP_WITHOUT_HANDLE sPOT dR-OFF_CALENDAR
  nDROP-BARBED_RIGHTWARDS_ARROW xSPOKED_ASTERISK wDDY_BEAR iLEPHONE_LOCATION_SIGN nON_TOP_OF_MODEM
  pRECEIVER a_WITH_PAGE pORDER iSIGN kSCOPE fVISION hUGU_AI_LENGTH_MARK oDIGIT_EIGHT fFIVE dOUR
  eNINE eONE dSEVEN eIX dTHREE eWO dZERO kFRACTION_DIGIT_ONE_FOR_EVEN_POWERS_OF_FOUR
  tODD_POWERS_OF_FOUR zbTHREE_FOR_EVEN_POWERS_OF_FOUR tODD_POWERS_OF_FOUR
  zcWO_FOR_EVEN_POWERS_OF_FOUR tODD_POWERS_OF_FOUR zbZERO_FOR_ODD_POWERS_OF_FOUR zrLENGTH_MARK
  jTTER_A aA bI bU cBA bHA dCA bHA dDA bDA bHA dHA cZA dE aE cGA bHA dHA cI aI cJA bHA dKA bHA dLA
  bLA bLA eMA cNA aKAARA_POLLU mGA cNA cYA dO aO cPA bHA dRA bRA bRA eSA bHA cSA dTA bHA cSA cTA bHA
  eU aU cVA bOCALIC_L aL cR aR kYA jSIGN_ANUSVARA hVAGRAHA iCANDRABINDU kOMBINING_ANUSVARA_ABOVE
  oCANDRABINDU_ABOVE zcNUKTA fSIDDHAM hTUUMU fVIRAMA eSARGA mVOWEL_SIGN_AA bI bU cE aE cI aI cO aO
  cU aU cVOCALIC_L aL cR aR zbNGE_SIGN hNIS_RACQUET_AND_BALL uT cST_TUBE hTRAGRAM_FOR_ACCUMULATION
  lDVANCE gGGRAVATION kSCENT gBARRIER gOLD_RESOLUTION oRANCHING_OUT nCENTRE fHANGE fLOSED_MOUTH
  hNESS fURE gOMPLETION fIANCE iNSTANCY gTACT dENTION gRARIETY lDARKENING iECISIVENESS
  kFECTIVENESS_OR_DISTORTION zPARTURE iIFFICULTIES kMINISHMENT jMING fVERGENCE jOUBT eUTIES gEASE
  dMBELLISHMENT mNCOUNTERS iDEAVOUR hLARGEMENT kTERNITY hXHAUSTION kFAILURE gLIGHT fOLLOWING
  hSTERING iULL_CIRCLE hNESS iGATHERING a_IN lOING_TO_MEET mREATNESS iUARDEDNESS lHARDNESS
  hOLDING_BACK mINCREASE gNER fJOY dKEEPING_SMALL mINSHIP hLABOURING hW_OR_MODEL lEGION gMASSING
  gEASURE gIRED fON_THE_VERGE lPPOSITION kPACKING fTTERN gENETRATION kURITY gREACH dLEASE fSIDENCE
  fSTANCE hPONSE hITUAL gSEVERANCE iINKING gTOPPAGE fVE dRENGTH iUNITY fVASTNESS_OR_WASTING tWAITING
  fTCH fYOUTHFULNESS zHAANA_AABAAFILI iBAFILI hEBEFILI gEBEEFILI iYBEYFILI jIBIFILI hLETTER_AINU
  dLIFU fBAA dCHAVIYANI jDAADHU eVIYANI hHAALU gFAAFU fGAAFU eHAINU fNAVIYANI jHAA cHAA eJAVIYANI
  iKAAFU eHAA eLAAMU eHAVIYANI jMEEMU fNAA cOONU fPAVIYANI iQAAFU fRAA dSAADHU fEENU eHAVIYANI hEENU
  gTAVIYANI hHAA aLU fO bTAA eVAAVU fWAAVU fYAA dZAA bVIYANI hO jOABOAFILI iBOFILI gOBOOFILI jSUKUN
  fUBUFILI lI_CHARACTER_ANGKHANKHU kBO_BAIMAI jCHO_CHAN aG dING dOE iDO_CHADA fDEK gFO_FA aN eNGMAN
  hHO_HIP dNOKHUK jKHO_KHAI cON cUAT dWAI fRAKHANG iMUT fO_KAI gLAKKHANGYAO kO_CHULA fLING gU
  cMAI_CHATTAWA iEK cHAN-AKAT iTHO cRI eTAIKHU gYAMOK hO_MA fNGO_NGU gIKHAHIT hO_NEN cU fO_ANG
  fPAIYANNOI iHINTHU fO_PHAN cUNG fSAMPHAO kO_PLA gRO_RUA fU cSARA_A aA bE bI_MAIMALAI eUAN jM cE bI
  aI cO bU aE aE cU gO_RUSI eSALA dO bUA gTHANTHAKHAT jO_NANGMONTHO kPHUTHAO hTHAHAN dN cONG dUNG
  iO_PATAK fTAO gWO_WAEN hYAMAKKAN hO_YAK cING qURRENCY_SYMBOL_BAHT uDIGIT_EIGHT fFIVE dOUR eNINE
  eONE dSEVEN eIX dTHREE eWO dZERO nERE_DOES_NOT_EXIST oEXISTS hFORE fMODYNAMIC hMETER
  jIN_GREEK_CROSS lSALTIRE gPACE gKING_FACE kRD_PLACE_MEDAL pONG_SANDAL jUGHT_BALLOON
  nREE_BUTTON_MOUSE mCONSECUTIVE_EQUALS_SIGNS yDIMENSIONAL_ANGLE qOT_PUNCTUATION pLEFTWARDS_ARROWS
  pINES_CONVERGING_LEFT eRIGHT wNETWORKED_COMPUTERS tPOINTED_BLACK_STAR sRAYS_ABOVE fBELOW fLEFT
  eRIGHT jIGHTWARDS_ARROWS rSPEECH_BUBBLES p-D_BOTTOM-LIGHTED_RIGHTWARDS_ARROWHEAD
  zkLEFT-LIGHTED_DOWNWARDS_EQUILATERAL_ARROWHEAD ztRIGHT-LIGHTED_UPWARDS_EQUILATERAL_ARROWHEAD
  zsTOP-LIGHTED_LEFTWARDS_EQUILATERAL_ARROWHEAD zgRIGHTWARDS_ARROWHEAD jEQUILATERAL_ARROWHEAD
  zvEM_DASH hPER-EM_SPACE qUMBS_DOWN_SIGN jUP_SIGN lNDER_CLOUD_AND_RAIN pSTORM
  lIBETAN_ASTROLOGICAL_SIGN_-KHYUD_PA jSDONG_TSHUGS lGRA_GCAN_-CHAR_RTAGS
  zoCANTILLATION_SIGN_CANG_TE-U jHEAVY_BEAT kLIGHT_BEAT kSBUB_-CHAL zdDIGIT_EIGHT fFIVE dOUR
  eHALF_EIGHT fFIVE dOUR eNINE eONE dSEVEN eIX dTHREE eWO dZERO jNINE eONE dSEVEN eIX dTHREE eWO
  dZERO kKU_RU_KHA a_BZHI_MIG_CAN wLETTER_-A cA bBA bHA dCA bHA dDA bDA bHA dHA cZA bHA
  eFIXED-FORM_RA nGA bHA dHA cJA cKA bHA cKA cSSA eLA cMA cNA bGA cNA cYA dPA bHA dRA bRA dSA bHA
  cSA dTA bHA cSA bHA dTA bHA eWA cYA cZA bHA jOGOTYPE_SIGN_CHAD_RTAGS kLHAG_RTAGS
  yMARK_ANG_KHANG_GYAS cON oBKA-_SHOG_GI_MGO_RGYAN mYIG_MGO qSDUS_RTAGS jKA-_SHOG_GI_MGO_RGYAN
  uUR_YIG_MGO nCARET_-DZUD_RTAGS_BZHI_MIG_CAN mME_LONG_CAN xYIG_MGO_PHUR_SHAD_MA zHE_MGO
  gLOSING_BRDA_RNYING_YIG_MGO_SGAB_MA zcYIG_MGO_SGAB_MA xDELIMITER_TSHEG_BSTAR vGTER_TSHEG
  fYIG_MGO_-UM_GTER_TSHEG_MA nRNAM_BCAD_MA qTRUNCATED_A xUG_RTAGS_GYAS cON oHALANTA
  hINITIAL_BRDA_RNYING_YIG_MGO_MDUN_MA zcYIG_MGO_MDUN_MA vTERSYLLABIC_TSHEG tLEADING_MCHAN_RTAGS
  tMNYAM_YIG_GI_MGO_RGYAN wNGAS_BZUNG_NYI_ZLA hSGOR_RTAGS uYIS_SHAD eTSHEG a_SHAD pPALUTA
  gRGYA_GRAM_SHAD nIN_CHEN_SPUNGS_SHAD uSBRUL_SHAD jHAD eTRAILING_MCHAN_RTAGS tSA_-PHRU hHEG_SHAD
  kYIG_MGO_TSHEG_SHAD_MA zbSIGN_GRU_CAN_RGYINGS lMED_RGYINGS pINVERTED_MCHU_CAN rLCE_TSA_CAN
  jI_RTAGS jMAR_TSHES iCHU_CAN iNYI_ZLA_NAA_DA oRDEL_DKAR_GCIG dNYIS eSUM eRDEL_NAG nNAG_GCIG dNYIS
  eSUM eRDEL_DKAR rJES_SU_NGA_RO nNAM_BCAD jSNA_LDAN iYANG_RTAGS iR_TSHES nUBJOINED_LETTER_-A cA bBA
  bHA dCA bHA dDA bDA bHA dHA cZA bHA eFIXED-FORM_RA cWA cYA nGA bHA dHA cJA cKA bHA cSSA eLA cMA
  cNA bGA cNA cYA dPA bHA dRA cSA bHA cSA dTA bHA cSA bHA dTA bHA eWA cYA cZA bHA
  kSIGN_INVERTED_MCHU_CAN rLCE_TSA_CAN lMCHU_CAN wYLLABLE_OM jMBOL_DRIL_BU hNOR_BU a_BZHI_-KHYIL
  lGSUM_-KHYIL lNYIS_-KHYIL sPADMA_GDAN jHUR_PA hRDO_RJE a_RGYA_GRAM yVOWEL_SIGN_AA cE aE cI aI cO
  aO cREVERSED_I aI lU aU cVOCALIC_L aL cR aR zcCKET eE_OVER_INFINITY pFINAGH_CONSONANT_JOINER
  qLETTER_AHAGGAR_YAZH lYER_YAGH jBERBER_ACADEMY_YAH bJ sTAWELLEMET_YAZ nUAREG_YAGH bN cH bK aH cNG
  cQ bZH lYA aA bB aH cCH cD aD aH cH cF bG aH aH dH aH cJ bK aH aH dL bM bN bP bQ bR aR cS aH bS cT
  aH bT cV bW bY bZ aH bZ dE aY cI bO bU jMODIFIER_LETTER_LABIALIZATION_MARK zjSEPARATOR_MARK vGER
  a_FACE hHT_TRIFOLIATE_SNOWFLAKE yLDE a_OPERATOR a_ABOVE_LEFTWARDS_ARROW pRIGHTWARDS_ARROW
  wWITH_DOT_ABOVE jRISING_DOTS zWITH_DOT_ABOVE fBELOW jRING_ABOVE tMER_CLOCK hS_WITH_LEFT_HALF_BLACK
  pRIGHT_HALF_BLACK zNY a_TWO_DOTS_OVER_ONE_DOT_PUNCTUATION zlRED_FACE hHUTA_ABBREVIATION_SIGN qNJI
  eDIGIT_EIGHT fFIVE dOUR eNINE eONE dSEVEN eIX dTHREE eWO dZERO kGVANG fLETTER_A aA bI bU cBA bHA
  dCA bHA dDA bDA bHA dHA dE bGA bHA dHA cI aI cJA bHA dKA bHA dLA cMA cNA bGA cNA cYA dO bPA bHA
  dRA cSA bHA cSA dTA bHA cTA bHA eU aU cVA bOCALIC_L aL cR aR kYA jOM cSIGN_ANUSVARA hVAGRAHA
  iCANDRABINDU lNUKTA fVIRAMA eSARGA mVOWEL_SIGN_AA bI bU cE bI aI cO bSHORT_E bO hU aU cVOCALIC_L
  aL cR aR zbONIAN_SIGN_CAPITAL_ET kET pOILET eKYO_TOWER jMATO eNGUE eOLBOX eTH aBRUSH
  iP_ARC_ANTICLOCKWISE_ARROW a_WITH_PLUS zeCLOCKWISE_ARROW_WITH_MINUS zfCURLY_BRACKET
  nHALF_BLACK_CIRCLE mINTEGRAL iLEFT_PARENTHESIS qRIGHT_PARENTHESIS rSECTION_SIGN pT dLEFT_CORNER
  fROP eHALF_BRACKET rPARENTHESIS lRIGHT_CORNER fROP eHALF_BRACKET sSQUARE_BRACKET
  oTORTOISE_SHELL_BRACKET wWITH_UPWARDS_ARROW_ABOVE
  zbRTOISE_SHELL_BRACKETED_CJK_UNIFIED_IDEOGRAPH-4E09 c8C e52DD dB89 e6253 d557 d72C e70B9 d6D7
  zbLATIN_CAPITAL_LETTER_S zuTAL_RUNOUT jO_LETTER_A aE cBA bREATHY_AE cE aO cI aU kCHA dDA cE aO cGA
  cHA cI aU cJA cKA cLA cMA cNA bGA dO bPA cRA cSA cTA cU bWA cYA jSIGN_RISING_TONE uRACKBALL fTOR
  eDE_MARK_SIGN mIN cM a_CAR fNSPLUTO fVERSAL_INTERSECTION wIANGLE_WITH_DOT_ABOVE jROUNDED_CORNERS
  pSERIFS_AT_BOTTOM qUNDERBAR o-HEADED_RIGHTWARDS_ARROW zbULAR_BULLET gFLAG_ON_POST mRULER nCOLON
  fDENT_EMBLEM lGRAM_FOR_EARTH fFIRE eHEAVEN gLAKE eMOUNTAIN iTHUNDER hWATER eIND
  nPLE_COLON_OPERATOR oDAGGER gHORIZONTAL_BAR_WITH_DOUBLE_VERTICAL_STROKE wTRIPLE_VERTICAL_STROKE
  zrINTEGRAL iNESTED_GREATER-THAN mLESS-THAN qPLUS dRIME fSOLIDUS_BINARY_RELATION xTILDE
  fVERTICAL_BAR_BINARY_RELATION pDELIMITER jRIGHT_TURNSTILE pWITH_HORIZONTAL_STROKE zpOLL aEYBUS
  hPHY cICAL_DRINK fFISH lUE a_LIGHT_MOON_ARTA rMPET gUGRIK_SIGN jLIP dMBLER_GLASS lRKEY
  cISH_LIRA_SIGN oNED_AMPERSAND iNGLE fBLACK_PENTAGON iSHOGI_PIECE rCAPITAL_F iOMMA fDAGGER
  fIGIT_THREE eWO jGREEK_SMALL_LETTER_IOTA xNORTH_EAST_POINTING_LEAF sWEST_POINTING_LEAF wT_SIGN
  iOK_HAND_SIGN mSANS-SERIF_CAPITAL_G bL bY tEMICOLON iMALL_F gOUTH_EAST_POINTING_LEAF
  sWEST_POINTING_LEAF yWHITE_SHOGI_PIECE vTLE fWELVE_POINTED_BLACK_STAR xISTED_RIGHTWARDS_ARROWS
  xO_ASTERISKS_ALIGNED_VERTICALLY zdBUTTON_MOUSE mCONSECUTIVE_EQUALS_SIGNS yDOT_LEADER gPUNCTUATION
  mS_OVER_ONE_DOT_PUNCTUATION zeHEARTS gINTERSECTING_LOGICAL_AND dOR xJOINED_SQUARES
  oLOGICAL_AND_OPERATOR mOR_OPERATOR tMEN_HOLDING_HANDS rSPEECH_BUBBLES oWOMEN_HOLDING_HANDS
  u-EM_DASH lUGARITIC_LETTER_AIN cLPA eBETA eDELTA eHAL eGAMLA eHAIN fHO aTA eI bKAF cHA dLAMDA fMEM
  dNUN dPU cQOPA eRASHA fSADE cMKA eHIN dSU dTET cHANNA fO cU bWO cYOD dZETA dU jWORD_DIVIDER
  uMBRELLA a_ON_GROUND jWITH_RAIN_DROPS xNAMUSED_FACE lCERTAINTY_SIGN oDERTIE fO_SYMBOL jICORN_FACE
  jON a_ABOVE_BAR_ABOVE_INTERSECTION wINTERSECTION sBESIDE_AND_JOINED_WITH_UNION zdWITH_LOGICAL_OR
  kMINUS_SIGN kOVERBAR pT_SEPARATOR kED_SYMBOL kVERSAL_RECYCLING_SYMBOL yMARRIED_PARTNERSHIP_SYMBOL
  zcP_ARROW_THROUGH_CIRCLE pHEAD a_BETWEEN_TWO_HORIZONTAL_BARS zcIN_A_RECTANGLE_BOX
  zdBARB_LEFT_DOWN_BARB_LEFT_HARPOON mRIGHT_HARPOON zdRIGHT_DOWN_BARB_LEFT_HARPOON mRIGHT_HARPOON
  zjDOWN_ARROW a_WITH_BASE pBLACK_ARROW lDOUBLE_ARROW mSANS-SERIF_ARROW qTRIANGLE-HEADED_ARROW
  vWHITE_ARROW qFISH_TAIL jRIGHT_DIAGONAL_ELLIPSIS xTACK a_WITH_CIRCLE_ABOVE x-POINTING_AIRPLANE
  iMILITARY_AIRPLANE rRED_TRIANGLE mSMALL_AIRPLANE iRED_TRIANGLE sTRIANGLE_WITH_LEFT_HALF_BLACK
  pRIGHT_HALF_BLACK zpPER_AND_LEFT_AND_LOWER_TRIANGULAR_THREE_QUARTERS_BLOCK zuOWER_ONE_EIGHTH_BLOCK
  qTRIANGULAR_HALF_BLOCK zcRIGHT_AND_LOWER_TRIANGULAR_THREE_QUARTERS_BLOCK zzbBLADE_SCISSORS
  oFIVE_EIGHTHS_BLOCK sHALF_BLOCK a_AND_LOWER_HALF_INVERSE_MEDIUM_SHADE zqCIRCLE
  gINVERSE_MEDIUM_SHADE_AND_LOWER_HALF_BLOCK ziWHITE_CIRCLE uMEDIUM_SHADE
  rLEFT_BLOCK_DIAGONAL_LOWER_CENTRE_TO_LOWER_MIDDLE_RIGHT sUPPER_MIDDLE_RIGHT mRIGHT
  vLEFT_TO_LOWER_MIDDLE_RIGHT sUPPER_CENTRE gMIDDLE_RIGHT zbMIDDLE_LEFT_TO_UPPER_CENTRE
  gMIDDLE_RIGHT mRIGHT zhUPPER_MIDDLE_LEFT_TO_UPPER_CENTRE gRIGHT zwCORNER_WITH_DOT
  pOR_LOWER_RIGHT_CURLY_BRACKET_SECTION zlQUADRANT_CIRCULAR_ARC vTO_LOWER_RIGHT_FILL sRIANGLE
  cULAR_MEDIUM_SHADE zdONE_EIGHTH_BLOCK mQUARTER_BLOCK
  rRIGHT_BLOCK_DIAGONAL_LOWER_MIDDLE_LEFT_TO_LOWER_CENTRE gRIGHT
  zhUPPER_CENTRE_TO_LOWER_MIDDLE_RIGHT mRIGHT lUPPER_MIDDLE_RIGHT zdLEFT_TO_LOWER_CENTRE
  gMIDDLE_RIGHT sUPPER_MIDDLE_RIGHT zbMIDDLE_LEFT_TO_LOWER_CENTRE gMIDDLE_RIGHT mRIGHT
  zwDROP-SHADOWED_WHITE_SQUARE zbOR_LOWER_LEFT_CURLY_BRACKET_SECTION zkPENCIL gQUADRANT_CIRCULAR_ARC
  vSHADOWED_WHITE_CIRCLE gSQUARE vTO_LOWER_LEFT_FILL rRIANGLE cULAR_MEDIUM_SHADE
  zeSEVEN_EIGHTHS_BLOCK tTHREE_EIGHTHS_BLOCK nQUARTERS_BLOCK tRIANGULAR_ONE_QUARTER_BLOCK
  zhSIDE-DOWN_FACE oWARDS_ANCORA fRROW a_AND_RIGHT_ONE_EIGHTH_BLOCK zbFROM_BAR
  iLEFTWARDS_OF_DOWNWARDS_ARROW zdTO_BAR gWITH_DOUBLE_STROKE nEQUILATERAL_ARROWHEAD
  vHORIZONTAL_STROKE rLARGE_TRIANGLE_ARROWHEAD yMEDIUM_TRIANGLE_ARROWHEAD zNOTCHED_TAIL
  mSMALL_EQUILATERAL_ARROWHEAD vTRIANGLE_ARROWHEAD yTIP_LEFTWARDS jRIGHTWARDS zBLACK_ARROW
  fCIRCLED_WHITE_ARROW zCOMPRESSED_ARROW qDASHED_ARROW lOUBLE_ARROW mFINGER-POST_ARROW
  rHARPOON_WITH_BARB_LEFT_BESIDE_DOWNWARDS_HARPOON_WITH_BARB_RIGHT ziUPWARDS_HARPOON_WITH_BARB_RIGHT
  znFROM_BAR iTO_BAR hWARDS jRIGHT_FROM_BAR iTO_BAR hWARDS zcEAVY_ARROW fCOMPRESSED_ARROW
  wPAIRED_ARROWS nQUADRUPLE_ARROW pROCKET gSANS-SERIF_ARROW pQUARED_ARROW nTRIANGLE_ARROWHEAD
  k-HEADED_ARROW a_LEFTWARDS_OF_DOWNWARDS_TRIANGLE-HEADED_ARROW ztTO_BAR gWITH_BOLD_SHAFT
  kDOUBLE_HORIZONTAL_STROKE yHEAVY_SHAFT lLONG_TIP_LEFTWARDS jRIGHTWARDS tMEDIUM_SHAFT mNARROW_SHAFT
  mVERY_HEAVY_SHAFT zcDASHED_ARROW mPAIRED_ARROWS zbPLE_ARROW lWO_HEADED_ARROW
  n-HEADED_ARROW_FROM_SMALL_CIRCLE rWITH_TRIANGLE_ARROWHEADS zqWHITE_ARROW a_FROM_BAR
  a_WITH_HORIZONTAL_BAR zdON_PEDESTAL a_WITH_HORIZONTAL_BAR oVERTICAL_BAR
  zeWITHIN_TRIANGLE_ARROWHEAD zgDOUBLE_ARROW a_ON_PEDESTAL zmRANUS fS cVAI_COMMA fDIGIT_EIGHT fFIVE
  dOUR eNINE eONE dSEVEN eIX dTHREE eWO dZERO kFULL_STOP jQUESTION_MARK nSYLLABLE_A aN cBA bE aE cHA
  bE aE cI bO aO cU cI bO aO cU cCA bE aE cI bO aO cU cDA bE aE cHA bE aE cHA bE aE cI bO aO cU cI
  bO aO cU cI bO aO cU cE aE aN cN cFA bE aE cI bO aO cU cGA bBA bE aE bN cI bO aN bO cU cE aE bN cI
  bO aO cU cHA aN cE aE bN cI aN cO aN bO cU aN dI aN cJA bE aE cI bO aO cU cKA aN cE aE cI bO aO
  cPA aN cE aE bN cI bO aO cU cU cLA bE aE bNGTHENER jI bO aO cU cMA bBA bE aE cI bO aO cU cE aE
  cGBA bE aE cI bO aO cU dI bO aO cU cNA bDA bE aE cI bO aLE_DO cFA cKA cMA cSOO gO cU cE aE cG aAN
  cEN cGA bE aE bN cI bO aO cU cON dI bJA bE aE cI bO aO cU cO aO cU bYA bE aE cI bO aO cU dO aN bO
  aN dPA bE aE cI bO aO cU cRA bE aE cI bO aO cU cSA bE aE cHA bE aE cI bO aO cU cI bO aO cU cTA bE
  aE cHA bE aE cI bO aO cU cI bO aO cU cU aN cVA bE aE cI bO aO cU cWA aN cE aE aN cN cI aN cO aN bO
  aN dU aN dYA bE aE cI bO aO cU cZA bE aE cHA bE aE cI bO aO cU cI bO aO cU jMBOL_BANG eDANG dO-O
  cONG fFAA cEENG fJONG eKEENG eUNG eNII dTAA cING dONG nMPIRE fRIATION_SELECTOR-1 a0 a0 b1 b2 b3 b4
  b5 b6 b7 b8 b9 c1 a0 b1 b2 b3 b4 b5 b6 b7 b8 b9 c2 a0 b1 b2 b3 b4 b5 b6 b7 b8 b9 c3 a0 b1 b2 b3 b4
  b5 b6 b7 b8 b9 c4 a0 b1 b2 b3 b4 b5 b6 b7 b8 b9 c5 a0 b1 b2 b3 b4 b5 b6 b7 b8 b9 c6 a0 b1 b2 b3 b4
  b5 b6 b7 b8 b9 c7 a0 b1 b2 b3 b4 b5 b6 b7 b8 b9 c8 a0 b1 b2 b3 b4 b5 b6 b7 b8 b9 c9 a0 b1 b2 b3 b4
  b5 b6 b7 b8 b9 d2 a0 a0 b1 b2 b3 b4 b5 b6 b7 b8 b9 c1 a0 b1 b2 b3 b4 b5 b6 b7 b8 b9 c2 a0 b1 b2 b3
  b4 b5 b6 b7 b8 b9 c3 a0 b1 b2 b3 b4 b5 b6 b7 b8 b9 c4 a0 b1 b2 b3 b4 b5 b6 b7 b8 b9 c5 a0 b1 b2 b3
  b4 b5 b6 c6 b7 b8 b9 c3 a0 b1 b2 b3 b4 b5 b6 b7 b8 b9 c4 a0 b1 b2 b3 b4 b5 b6 b7 b8 b9 c5 a0 b1 b2
  b3 b4 b5 b6 b7 b8 b9 c6 a0 b1 b2 b3 b4 b5 b6 b7 b8 b9 c7 a0 b1 b2 b3 b4 b5 b6 b7 b8 b9 c8 a0 b1 b2
  b3 b4 b5 b6 b7 b8 b9 c9 a0 b1 b2 b3 b4 b5 b6 b7 b8 b9 uECTOR_OR_CROSS_PRODUCT
  vDIC_SIGN_ANUSVARA_ANTARGOMUKHA mBAHIRGOMUKHA mUBHAYATO_MUKHA oVAMAGOMUKHA a_WITH_TAIL
  zeRDHAVISARGA lTIKRAMA iDOUBLE_ANUSVARA_ANTARGOMUKHA zdHEXIFORM_LONG_ANUSVARA wJIHVAMULIYA
  lLONG_ANUSVARA nNIHSHVASA jREVERSED_VISARGA_ANUDATTA iUDATTA wOTATED_ARDHAVISARGA
  tTHANG_LONG_ANUSVARA uTIRYAK gUPADHMANIYA lVISARGA_ANUDATTA a_WITH_TAIL sSVARITA hUDATTA
  a_WITH_TAIL yYAJURVEDIC_MIDLINE_SVARITA zgTONE_ATHARVAVEDIC_INDEPENDENT_SVARITA zhCANDRA_ABOVE
  fBELOW mDOT_BELOW hUBLE_RING_ABOVE kSVARITA oKARSHANA gTHAKA_ANUDATTA qPRENKHA
  hRIGVEDIC_KASHMIRI_INDEPENDENT_SVARITA zkNG_ABOVE kSHARA fTHREE_DOTS_BELOW pRIPLE_SVARITA
  nWO_DOTS_BELOW oYAJURVEDIC_AGGRAVATED_INDEPENDENT_SVARITA zfINDEPENDENT_SVARITA
  tKATHAKA_INDEPENDENT_SVARITA a_SCHROEDER zzhRSICLE fTICAL_BAR_BESIDE_RIGHT_TRIANGLE
  vDOUBLE_LEFT_TURNSTILE vTRIPLE_RIGHT_TURNSTILE wWITH_HORIZONTAL_STROKE zbELLIPSIS iFOUR_DOTS
  jIDEOGRAPHIC_ITERATION_MARK zbKANA_REPEAT_MARK a_LOWER_HALF kUPPER_HALF pWITH_VOICED_SOUND_MARK
  a_UPPER_HALF zuLINE a_EXTENSION jWITH_CIRCLE_ABOVE fBELOW mMIDDLE_DOT uMALE_WITH_STROKE_SIGN
  vONE_EIGHTH_BLOCK-2 b3 b4 b5 b6 b7 sSIX_DOTS iTAB_KEY eULATION a_SET nILDE eRAFFIC_LIGHT
  nZIGZAG_LINE rY_BOLD_GREEK_CROSS qHEAVY_EIGHT_POINTED_BLACK_STAR sSPOKED_ASTERISK
  vFIVE_SPOKED_ASTERISK uGREEK_CROSS lREVERSE_SOLIDUS pSALTIRE gIX_SPOKED_ASTERISK sOLIDUS
  hWHITE_CIRCLE gSQUARE sMUCH_GREATER-THAN mLESS-THAN rSTA eIBRATION_MODE mCTORY_HAND kDEO_CAMERA
  gGAME fCASSETTE lETNAMESE_ALTERNATE_READING_MARK_CA cNHAY zkWDATA_SQUARE nOLIN eRGO
  dTHKUQI_CAPITAL_LETTER_A bBBE cE cCE bHE dDE bHE dE aI cFE cGA cHA bHA dI aJE dJE cKA cLA bLA dME
  cNE bJE dO bPE cQA cRE cSE bHE dTE bHE dU bVE cXE cY bZE rSMALL_LETTER_A bBBE cE cCE bHE dDE bHE
  dE aI cFE cGA cHA bHA dI aJE dJE cKA cLA bLA dME cNE bJE dO bPE cQA cRE cSE bHE dTE bHE dU bVE cXE
  cY bZE xOIDED_GREEK_CROSS qLCANO eLEYBALL hUME_INTEGRAL oS1 a0 a0 b1 b2 b3 b4 b5 b6 b7 b8 b9 c1 a0
  b1 b2 b3 b4 b5 b6 b7 b8 b9 c2 a0 b1 b2 b3 b4 b5 b6 b7 b8 b9 c3 a0 b1 b2 b3 b4 b5 b6 b7 b8 b9 c4 a0
  b1 b2 b3 b4 b5 b6 b7 b8 b9 c5 a0 b1 b2 b3 b4 b5 b6 b7 b8 b9 c6 a0 b1 b2 b3 b4 b5 b6 b7 b8 b9 c7 a0
  b1 b2 b3 b4 b5 b6 b7 b8 b9 c8 a0 b1 b2 b3 b4 b5 b6 b7 b8 b9 c9 a0 b1 b2 b3 b4 b5 b6 b7 b8 b9 d2 a0
  a0 b1 b2 b3 b4 b5 b6 b7 b8 b9 c1 a0 b1 b2 b3 b4 b5 b6 b7 b8 b9 c2 a0 b1 b2 b3 b4 b5 b6 b7 b8 b9 c3
  a0 b1 b2 b3 b4 b5 b6 b7 b8 b9 c4 a0 b1 b2 b3 b4 b5 b6 b7 b8 b9 c5 a0 b1 b2 b3 b4 b5 b6 c6 b7 b8 b9
  c3 a0 b1 b2 b3 b4 b5 b6 b7 b8 b9 c4 a0 b1 b2 b3 b4 b5 b6 b7 b8 b9 c5 a0 b1 b2 b3 b4 b5 b6 b7 b8 b9
  c6 a0 b1 b2 b3 b4 b5 b6 b7 b8 b9 c7 a0 b1 b2 b3 b4 b5 b6 b7 b8 b9 c8 a0 b1 b2 b3 b4 b5 b6 b7 b8 b9
  c9 a0 b1 b2 b3 b4 b5 b6 b7 b8 b9 dT aS cULCANUS fGAR_FRACTION_FIVE_EIGHTHS hSIXTHS kOUR_FIFTHS
  lONE_EIGHTH gFIFTH fHALF eNINTH fQUARTER hSEVENTH gIXTH fTENTH eHIRD jSEVEN_EIGHTHS nTHREE_EIGHTHS
  hFIFTHS gQUARTERS nWO_FIFTHS gTHIRDS kZERO_THIRDS zcWAFFLE eNCHO_DIGIT_EIGHT fFIVE dOUR eNINE eONE
  dSEVEN eIX dTHREE eWO dZERO kLETTER_A aA aN aG dNG cU cBA cCA cDA cE aN cFA cGA cHA cI aNG dJA cKA
  bHA dLA bLHA eMA cNA bGA cYA dO aN aG dPA bHA dRA cSA bHA dTA bHA cRA cSA dU aEN dVA cWA cYA bIH
  dZA jNGUN_SIGN jTONE_KOI aNI fTUP aNI oING_CRESCENT_MOON_SYMBOL uGIBBOUS_MOON_SYMBOL
  yRANG_CITI_CAPITAL_LETTER_A aM bNG cT cBU cDA cE aNN bY dGA cHAR cIYO dOLO cRR eII cKO cNGAA dUNG
  eO aDD dPU cSII cSUU eTTE dUC bU cVIYO eWI cYA bO bU aJ sDIGIT_EIGHT fFIVE dOUR eNINE eONE dSEVEN
  eIX dTHREE eWO dZERO kNUMBER_EIGHTY gFIFTY eORTY fNINETY gSEVENTY gIXTY fTEN cHIRTY fWENTY nOM
  cSMALL_LETTER_A aM bNG cT cBU cDA cE aNN bY dGA cHAR cIYO dOLO cRR eII cKO cNGAA dUNG eO aDD dPU
  cSII cSUU eTTE dUC bU cVIYO eWI cYA bO bU aJ zNING_SIGN kSTEBASKET jTCH cER_BUFFALO hCLOSET gPOLO
  eWAVE fMELON iVE_ARROW_POINTING_DIRECTLY_LEFT eRIGHT zeDASH gING_BLACK_FLAG kHAND_SIGN jWHITE_FLAG
  oY_DASH eLINE dOW_LINE iOVERLINE lXING_CRESCENT_MOON_SYMBOL uGIBBOUS_MOON_SYMBOL zEARY_CAT_FACE
  iFACE iDDING eGE-TAILED_RIGHTWARDS_ARROW zcIERSTRASS_ELLIPTIC_FUNCTION zbGHT_LIFTER
  lST_SYRIAC_CROSS qHALE dEEL a_OF_DHARMA kCHAIR_SYMBOL pITE_ARROW_SHAFT_WIDTH_ONE dTWO_THIRDS
  zdBULLET gCHESS_BISHOP a_ROTATED_NINETY_DEGREES oTWO_HUNDRED_SEVENTY_DEGREES zrEQUIHOPPER
  a_ROTATED_NINETY_DEGREES ziKING a_ROTATED_NINETY_DEGREES oTWO_HUNDRED_SEVENTY_DEGREES zoNIGHT
  a_ROTATED_FORTY-FIVE_DEGREES sNINETY_DEGREES oONE_HUNDRED_THIRTY-FIVE_DEGREES
  zgTHREE_HUNDRED_FIFTEEN_DEGREES zdWO_HUNDRED_SEVENTY_DEGREES pTWENTY-FIVE_DEGREES zp-BISHOP gQUEEN
  fROOK lPAWN a_ROTATED_NINETY_DEGREES oTWO_HUNDRED_SEVENTY_DEGREES zpQUEEN a_ROTATED_NINETY_DEGREES
  oTWO_HUNDRED_SEVENTY_DEGREES zqROOK a_ROTATED_NINETY_DEGREES oTWO_HUNDRED_SEVENTY_DEGREES
  zpTURNED_BISHOP gKING dNIGHT gPAWN eQUEEN fROOK qIRCLE a_CONTAINING_BLACK_SMALL_CIRCLE
  zeWITH_DOT_RIGHT hWN_ARROW kLOWER_LEFT_QUADRANT nRIGHT_QUADRANT uTWO_DOTS iUPPER_LEFT_QUADRANT
  nRIGHT_QUADRANT zgLUB_SUIT iONCAVE-SIDED_DIAMOND a_WITH_LEFTWARDS_TICK oRIGHTWARDS_TICK zrDIAMOND
  a_CONTAINING_BLACK_MEDIUM_DIAMOND oSMALL_DIAMOND nVERY_SMALL_DIAMOND zkIN_SQUARE jSUIT
  eWITH_CENTRED_DOT xOWN_POINTING_BACKHAND_INDEX oINDEX fLEFT_HAND_INDEX z-POINTING_SMALL_TRIANGLE
  oTRIANGLE vRAUGHTS_KING eMAN mEXCLAMATION_MARK_ORNAMENT zFLAG
  a_WITH_HORIZONTAL_MIDDLE_BLACK_STRIPE znORETTE fWER fOUR_POINTED_CUSP eSTAR qROWNING_FACE
  nHARD_SHELL_FLOPPY_DISK vEART a_SUIT hVY_CHECK_MARK kSALTIRE_WITH_ROUNDED_CORNERS zhXAGON
  gORIZONTAL_ELLIPSE qURGLASS jLARGE_SQUARE kTIN_CROSS kEFT_LANE_MERGE kPOINTING_BACKHAND_INDEX
  oINDEX p-POINTING_POINTER hSMALL_TRIANGLE oTRIANGLE vOZENGE_CONTAINING_BLACK_SMALL_LOZENGE
  znMEDIUM_DIAMOND hLOZENGE hSMALL_SQUARE lQUARE fTAR kOON_SELENA lNIB dPARALLELOGRAM mENNANT eTAGON
  iQUESTION_MARK_ORNAMENT wRECTANGLE iIGHT_POINTING_BACKHAND_INDEX oINDEX p-POINTING_PENTAGON
  hOINTER hSMALL_TRIANGLE oTRIANGLE xSCISSORS hESAME_DOT jHOGI_PIECE kMALL_LOZENGE hSQUARE fTAR
  iILING_FACE lPADE_SUIT jQUARE a_BUTTON gCONTAINING_BLACK_MEDIUM_SQUARE nSMALL_SQUARE
  mVERY_SMALL_SQUARE zjWITH_CENTRE_VERTICAL_LINE uLEFTWARDS_TICK nOWER_LEFT_QUADRANT nRIGHT_QUADRANT
  uRIGHTWARDS_TICK oOUNDED_CORNERS pUPPER_LEFT_QUADRANT nRIGHT_QUADRANT uVERTICAL_BISECTING_LINE
  zjTAR dUN a_BEHIND_CLOUD a_WITH_RAIN wWITH_RAYS eSMALL_CLOUD uTELEPHONE iOUCHTONE_TELEPHONE
  sRAPEZIUM hIANGLE_CONTAINING_SMALL_WHITE_TRIANGLE zoWO-WAY_LEFT_WAY_TRAFFIC
  yUP_POINTING_BACKHAND_INDEX oINDEX p-POINTING_CHEVRON hSMALL_TRIANGLE oTRIANGLE a_WITH_DOT
  zeVERTICAL_BAR dELLIPSE hRECTANGLE pY_SMALL_SQUARE s-FEATHERED_RIGHTWARDS_ARROW
  zgIDE-HEADED_DOWNWARDS_BARB_ARROW kHEAVY_BARB_ARROW qLIGHT_BARB_ARROW qMEDIUM_BARB_ARROW
  rVERY_HEAVY_BARB_ARROW zgLEFTWARDS_BARB_ARROW kHEAVY_BARB_ARROW qLIGHT_BARB_ARROW
  qMEDIUM_BARB_ARROW rVERY_HEAVY_BARB_ARROW zgNORTH_EAST_BARB_ARROW kHEAVY_BARB_ARROW
  qLIGHT_BARB_ARROW qMEDIUM_BARB_ARROW rVERY_HEAVY_BARB_ARROW zbWEST_BARB_ARROW kHEAVY_BARB_ARROW
  qLIGHT_BARB_ARROW qMEDIUM_BARB_ARROW rVERY_HEAVY_BARB_ARROW zhRIGHTWARDS_BARB_ARROW
  kHEAVY_BARB_ARROW qLIGHT_BARB_ARROW qMEDIUM_BARB_ARROW rVERY_HEAVY_BARB_ARROW
  zhSOUTH_EAST_BARB_ARROW kHEAVY_BARB_ARROW qLIGHT_BARB_ARROW qMEDIUM_BARB_ARROW
  rVERY_HEAVY_BARB_ARROW zbWEST_BARB_ARROW kHEAVY_BARB_ARROW qLIGHT_BARB_ARROW qMEDIUM_BARB_ARROW
  rVERY_HEAVY_BARB_ARROW zhUPWARDS_BARB_ARROW kHEAVY_BARB_ARROW qLIGHT_BARB_ARROW qMEDIUM_BARB_ARROW
  rVERY_HEAVY_BARB_ARROW zoGGLY_VERTICAL_LINE sLTED_FLOWER lND_BLOWING_FACE mCHIME gOW dE_GLASS
  hKING_FACE kRED_KEYBOARD nJ bOLF_FACE hMAN a_WITH_BUNNY_EARS qS_BOOTS fCLOTHES hHAT dSANDAL
  kENS_SYMBOL lN_SIGN gOD cRD_JOINER gSEPARATOR_MIDDLE_DOT wLD_MAP gM bRIED_FACE lRAPPED_PRESENT
  nEATH_PRODUCT lNCH dSTLERS hITING_HAND mX_IN_A_RECTANGLE_BOX t-RAY eIANGQI_BLACK_CANNON fHARIOT
  hELEPHANT iGENERAL hHORSE fMANDARIN iSOLDIER nRED_CANNON fHARIOT hELEPHANT iGENERAL hHORSE
  fMANDARIN iSOLDIER sOR dYAWNING_FACE lELLOW_HEART kN_SIGN gZIDI_COMBINING_HAMZA_MARK kMADDA_MARK
  uHYPHENATION_MARK qLETTER_BE cCHHIM dIM dIM dDAD bL dELIF dT bW bYN dFA cGAF dHAY cHA dJA cKAF
  cHAF eLAM a_WITH_DOT_ABOVE sMIM dNUN dOW cPE bHE dQAF dRA bHA dSAD cE bHIN dIN dTA bHE dUM cVA
  a_ALTERNATE_FORM rWAW dXA bHEYN fYOT a_WITH_CIRCUMFLEX_ABOVE zZA aL cE pI_RADICAL_BBUT dUR dCHE
  cIP cUOP dY aP bT dDDUR dU cGA bEP cGOP cUO dOT dHMO cXIT cOP cUO eJJIE cUT cY cO cKE bIT dLI aE
  cYR dMI bOP dNBIE dYIP cOP dZUP eOP cPUT cYT dQOT dSHAT cOP cUR cY cSI dTAT cU cVEP cUR dWO cYIT
  cO cZA bOT cUP bR cZIET nSYLLABLE_A aP bT bX cBA aP bT bX cBA aP bT bX cE aP bX cI aE aP bT bX cP
  bT bX cO aP bT bX cU aO aP bX cP bR aX cT bX cY aP bT bX dE aP bX cI aE aP bT bX cP bT bX cO aP bT
  bX cU aO aP bX cP bR aX cT bX cY aP bR aX cT bX dCA aP bT bX cE aP bX cHA aP bT bX cE aP bT bX cO
  aP bT bX cU aO aP bT bX cP bR aX cX cY aP bR aX cT bX dI aE aP bT bX cP bT bX cO aP bT bX cU aO aP
  bX cP bR aX cT bX cY aP bR aX cT bX dDA aP bT bX cDA aP bT bX cE aP bX cI aE aP bX cP bT bX cO aP
  bT bX cU aO aP bX cP bR aX cT bX dE aP bX cI aE aP bX cP bT bX cO aP bT bX cU aO aX cP bR aX cT bX
  dE aX cFA aP bT bX cI aP bT bX cO aP bX cU aP bR aX cT bX cY aP bT bX dGA aP bT bX cE aP bT bX cGA
  aP bT bX cE aP bT bX cI aE aP bX cT bX cO aP bT bX cU aO aP bT bX cP bR aX cT bX dI aE aP bT bX cP
  bT bX cO aP bT bX cU aO aP bT bX cP bR aX cT bX dHA aP bT bX cE aP bX cIE aX cT cLA aP bT bX cE aP
  bX cI aE aP bX cP bT bX cO aP bX cU aO aP bX cP bR aX cT bX cY aP bR aX cT bX dMA aP bT bX cI aE
  aP bX cP bT bX cO aP bT bX cU aO aP bX cP bR aX cT bX cY aP bR aX cX dNA aP bT bX cE aP bX cI aE
  aP bT bX cP bT bX cOP bT bX cUO aX cT dO aP bT bX cUO aP bT bX dXA aP bT bX cE aP bX cI aE aP bT
  bX cP bT bX cO aP bT bX cUO aP bT bX fI aE aP bT bX cP bT aERATION_MARK nX cJI aE aP bT bX cP bT
  bX cJI aE aP bT bX cP bT bX cO aP bT bX cU aO aP bX cP bR aX cT bX cY aP bT bX dO aP bT bX cU aO
  aP bT bX cP bR aX cT bX cY aP bR aX cT bX dKA aP bT bX cE aP bT bX cI aE aP bX cP bT bX cO aP bT
  bX cU aO aP bX cP bR aX cT bX dLA aP bT bX cE aP bX cI aE aP bT bX cP bT bX cO aP bT bX cU aO aP
  bT bX cP bR aX cT bX cY aP bR aX cT bX dMA aP bT bX cE aX cGA aP bT bX cE aP bX cIE aX dO aP bT bX
  cU aO aP bX cP bR aX cT bX dI aE aP bX cP bT bX cO aP bT bX cU aO aP bT bX cP bR aX cT bX cY aP bT
  bX dNA aP bX cBA aP bT bX cI aE aP bX cP bT bX cO aP bT bX cU aP bR aX cT bX cY aP bR aX cT bX dDA
  aP bT bX cE aP bX cI aE aX cP bT bX cO aP bT bX cU aP bR aX cT bX dE aP bX cGA aP bT bX cE aP bX
  cIE aP bX dO aP bT bX cUO aT bX eI aE aP bX cP bT bX cJI aE aP bT bX cP bT bX cO aP bT bX cU aO aX
  cP bR aX cX cY aP bR aX cT bX dO aP bT bX cRA aP bT bX cE aP bT bX cO aP bX cU aP bR aX cT bX cY
  aP bR aX cT bX dU aO aP bX cP bR aX cT bX cYI aE aP bT bX cP bT bX cO aP bT bX cU aO aP bX cP bT
  bX dZA aP bT bX cE aX cI aE aP bX cP bT bX cOP bX cU aO aX cP bR aX cX cY aP bR aX cT bX eO aP bT
  bX cPA aP bT bX cI aE aP bX cP bT bX cO aP bT bX cU aO aP bX cP bR aX cT bX cY aP bR aX cT bX dQI
  aE aP bT bX cP bT bX cO aP bT bX cU aO aP bT bX cP bR aX cT bX cY aP bR aX cT bX dRA aP bT bX cE
  aP bX cO aP bT bX cRA aX cE aP bT bX cO aP bT bX cU aO aX cP bR aX cT bX cY aP bR aX cT bX dU aO
  aP bX cP bR aX cT bX cY aP bR aX cT bX dSA aP bT bX cE aP bX cHA aP bT bX cE aP bT bX cO aP bT bX
  cU aO aP bX cP bR aX cT bX cY aP bR aX cT bX dI aE aP bX cP bT bX cO aP bT bX cSA aP bT bX cE aP
  bX cI aE aP bX cP bT bX cO aP bT bX cU aP bT bX cY aP bR aX cT bX dU aO aP bX cP bR aX cT bX cY aP
  bR aX cT bX dTA aP bT bX cE aP bX cI aE aP bX cP bT bX cO aP bT bX cU aO aP bT bX cP bR aX cT bX
  dUO aP bX dVA aP bT bX cEP bX cI aE aP bT bX cP bT bX cO aP bT bX cU aP bR aX cT bX cY aP bR aX cT
  bX dWA aP bT bX cE aP bX cO aP bX cU aO aP bX eXI aE aP bT bX cP bT bX cO aP bT bX cUO aX dY aP bR
  aX cT bX dYI aE aP bT bX cP bT bX cO aP bT bX cU aO aP bT bX cP bR aX cT bX cY aP bR aX cT bX dZA
  aP bT bX cE aP bX cHA aP bT bX cE aP bT bX cO aP bT bX cU aO aP bX cP bR aX cT bX cY aP bR aX cT
  bX dI aE aP bX cP bT bX cO aP bT bX cU aO aP bX cP bR aX cT bX cY aP bR aX cT bX cZA aP bT bX cE
  aP bX cI aE aP bT bX cP bT bX cO aP bX cU aP bR aX cX cY aP bR aX cT bX oN_YANG hO-YO
  fZ_NOTATION_BAG_MEMBERSHIP oDOMAIN_ANTIRESTRICTION wLEFT_BINDING_BRACKET pIMAGE_BRACKET
  sRANGE_ANTIRESTRICTION uELATIONAL_COMPOSITION vIGHT_BINDING_BRACKET pIMAGE_BRACKET
  tSCHEMA_COMPOSITION lPIPING fROJECTION qPOT eTYPE_COLON
  uANABAZAR_SQUARE_CLOSING_DOUBLE-LINED_HEAD_MARK wHEAD_MARK pUSTER-FINAL_LETTER_LA cRA cVA cYA
  pINITIAL_LETTER_RA zFINAL_CONSONANT_MARK uINITIAL_DOUBLE-LINED_HEAD_MARK wHEAD_MARK rLETTER_-A cA
  bBA bHA dCA bHA dDA bDA bHA dHA cZA bHA eGA bHA dHA cJA cKA bHA cSSA eLA cMA cNA bGA cNA cYA dPA
  bHA dRA cSA bHA cSA dTA bHA cSA bHA dTA bHA eVA cYA cZA bHA kMARK_DOUBLE_SHAD lLONG_TSHEG kSHAD
  eTSHEG kSIGN_ANUSVARA iCANDRA_WITH_ORNAMENT oBINDU a_WITH_ORNAMENT zVIRAMA eSARGA lUBJOINER
  jVOWEL_LENGTH_MARK lSIGN_AI bU cE bI bO aE cREVERSED_I kU aE zeEBRA_FACE iRO_WIDTH_JOINER
  gNO-BREAK_SPACE mN-JOINER kSPACE oUS dIPPER-MOUTH_FACE qNAMENNY_COMBINING_ATTACHING_VERTICAL_OMET
  xLOWER_TONAL_RANGE_INDICATOR zcMARK_BORZAYA hCHASHKA a_POLNAYA oURVED_OMET lDEMESTVENNY_ZADERZHKA
  uVOETOCHIE kGORAZDO_NIZKO_ON_LEFT eRIGHT iS_KRYZHEM_ON_LEFT eRIGHT yVYSOKO oKACHKA fRYZH a_ON_LEFT
  mUPNAYA hLOMKA fMALO_POVYSHE_ON_LEFT eRIGHT iS_KHOKHLOM_ON_LEFT eRIGHT qRYZHEM iTRANNO
  uNIZKO_ON_LEFT eRIGHT iS_KRYZHEM_ON_LEFT eRIGHT yOBLACHKO hN bTSECHKA iPODCHASHIE
  a_WITH_VERTICAL_STROKE zdVERTKA hVYSHE_ON_LEFT eRIGHT iS_KHOKHLOM_ON_LEFT eRIGHT qRYZHEM iTRANNO
  pRAVNO dZSEKA hSKOBA eOROCHYA_NOZHKA oREDNE_ON_LEFT eRIGHT oTRANNO_MALO_POVYSHE uTIKHAYA gOCHKA
  fSATA_ON_LEFT eRIGHT iS_KRYZHEM pUDARKA gVYSOKO_ON_LEFT eRIGHT iS_KHOKHLOM_ON_LEFT eRIGHT qRYZHEM
  qZADERZHKA iELO cVOK kTONAL_RANGE_MARK_MRACHNO hSVETLO gTRESVETLO zlNEUME_CHASHKA fELYUSTKA
  kDEMESTVENNY_KLYUCH qRBITSA hOUBLE_ZAPYATAYA pUDA dVA_V_CHELNU mFITA eGOLUBCHIK_BORZY fMRACHNY
  hSVETLY gTIKHY eRESVETLY tKHAMILO gLYUCH fOBYLA fRYUK a_TIKHY iZH eUFISMA hMECHIK
  a_KLYUCHENEPOSTOYANNY mPOVODNY hVOY kPOVODNY oNEMKA fOBLAKO fSOKA a_KLYUCHEVAYA_NEPOSTOYANNAYA
  oSVETLAYA tRYUKOVAYA_SVETLAYA tSVETLAYA iTRESVETLAYA rPALKA dRAKLIT gUK dEREVODKA a_NEPOSTOYANNAYA
  xODCHASHIE iLKULIZMY kREVERSED_CHELYUSTKA sOG dSKAMEYTSA_DVOECHELNAYA_KLYUCHEVAYA lNEPOSTOYANNAYA
  oPROSTAYA iSVETLAYA vKLYUCHENEPOSTOYANNAYA oVAYA_SVETLAYA iTIKHAYA tMRACHNAYA jSVETLAYA iTIKHAYA
  gRESVETLAYA uLOZHITIE a_S_KRYZHEM hZAPYATOY kZAKRYTOE rTATYA a_NEPOSTOYANNAYA oS_DVUMYA_ZAPYATYMI
  qKRYZHEM a_I_ZAPYATOY sROGOM fZAPYATOY a_I_KRYZHEM hPODCHASHIEM yZAKRYTAYA a_S_ZAPYATOY zOPITSA
  a_S_OCHKOM iWITH_SOROCHYA_NOZHKA zcRELA_DVOECHELNAYA a_KLYUCHEVAYA pOKRYZHEVAYA kPOVODNAYA
  a_KLYUCHEVAYA zgGROMNAYA a_WITH_SINGLE_ZAPYATAYA zbOKRYZHEVAYA a_POVODNAYA uPOVODNAYA
  a_WITH_DOUBLE_ZAPYATAYA qSINGLE_ZAPYATAYA zlKLYUCHENEPOSTOYANNAYA oPOVODNAYA pRYUKOVAYA a_GROMNAYA
  a_WITH_SINGLE_ZAPYATAYA zbOKRYZHEVAYA a_POVODNAYA uPOVODNAYA a_WITH_DOUBLE_ZAPYATAYA
  qSINGLE_ZAPYATAYA zlPOVODNAYA jTRYASKA pZHEVAYA kMRACHNOTIKHAYA oNEPOSTOYANNAYA oPOLUPOVODNAYA
  lVODNAYA iROSTAYA iTIKHAYA_PUTNAYA oRYASOGLASNAYA iPOVODNAYA jSTRELNAYA
  wVRAKHIYA_KLYUCHEVAYA_MRACHNAYA jPROSTAYA iSVETLAYA iTRESVETLAYA xMRACHNAYA jPROSTAYA iSVETLAYA
  iTRESVETLAYA uZANOZHEK gPYATAYA iMEYTSA nPRIZNAK_MODIFIER_DIRECTION_FLIP oKRYZH fLEVEL-2 b3 hROG
  zdOMBIE fWJ bNBSP dJ cSP"⟩

end LineCalc.Text
